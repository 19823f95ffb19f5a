import RecordFilter.CommandLine.Run
import RecordFilter.Proofs.FrontEnds.Requests
import RecordFilter.Proofs.Json.CompactText

/-!
# Texts through the front ends

A text may be an operand of its command, stand on standard input, or be the input of a debug
request. From standard input one line end is taken off, so a text that ends in one has to be
followed by another. All ways lead to the same evaluation, and the word that the command prints, its
exit status and the answer to the request say the same.
-/

namespace RecordFilter.CommandLine

/-- Ways to hand over a text to the command for texts: as its second operand, or as all there is on
standard input, followed by a line end that the text cannot be taken to have a part in, or by none
if it does not end like a line itself. -/
inductive Delivers (t : String) : Option String → ByteArray → Prop
  | operand : Delivers t (some t) input
  | twoCharacters : Delivers t none (t ++ "\r\n").toUTF8
  | oneCharacter (h : t.toList.getLast? ≠ some '\r') : Delivers t none (t ++ "\n").toUTF8
  | bare (h : t.toList.getLast? ≠ some '\n') : Delivers t none t.toUTF8

/-- The invocation checks the given text, or that on standard input, by a filter, with a setting for
synonyms. -/
structure ChecksText (i : Invocation) (w : Surroundings) (filter : String) (given : Option String)
    (synonymFile : Option String) : Prop where
  command : i.command = .text filter given
  settings : ∃ s, i.settings? w.files w.environment = some s ∧ s.synonyms = synonymFile

variable {t filter : String} {given synonymFile : Option String} {table : Synonyms}
  {i : Invocation} {w : Surroundings} {libs : Libraries}

/-! ## Line ends -/

theorem stripLineEnd_of_twoCharacters (t : String) : stripLineEnd (t ++ "\r\n") = t := by
  have hreverse : (t ++ "\r\n").toList.reverse = '\n' :: '\r' :: t.toList.reverse := by simp
  simp only [stripLineEnd, hreverse, List.reverse_reverse, String.ofList_toList]

theorem stripLineEnd_of_oneCharacter (h : t.toList.getLast? ≠ some '\r') :
    stripLineEnd (t ++ "\n") = t := by
  have hreverse : (t ++ "\n").toList.reverse = '\n' :: t.toList.reverse := by simp
  rw [List.getLast?_eq_head?_reverse] at h
  unfold stripLineEnd
  split
  · next s hs =>
    rw [hreverse, List.cons.injEq] at hs
    exact absurd (by rw [hs.2, List.head?_cons]) h
  · next s _ hs =>
    rw [hreverse, List.cons.injEq] at hs
    rw [← hs.2, List.reverse_reverse, String.ofList_toList]
  · next hs => exact absurd hreverse (hs _)

theorem stripLineEnd_of_bare (h : t.toList.getLast? ≠ some '\n') : stripLineEnd t = t := by
  rw [List.getLast?_eq_head?_reverse] at h
  unfold stripLineEnd
  split
  · next s hs => exact absurd (by rw [hs, List.head?_cons]) h
  · next s _ hs => exact absurd (by rw [hs, List.head?_cons]) h
  · rfl

/-- What stands on standard input is read as the text that it delivers. -/
theorem Delivers.readSource_eq (h : Delivers t none w.input) :
    ∃ s, readSource w standardInput = .ok s ∧ stripLineEnd s = t := by
  have hread : ∀ s : String, w.input = s.toUTF8 → readSource w standardInput = .ok s := by
    intro s hs
    have hdecode : String.fromUTF8? s.toUTF8 = some s := FileState.text?_ofText s
    have hinput : isStandardInput standardInput := by decide
    simp only [readSource, if_pos hinput, hs, hdecode]
  generalize hinput : w.input = input at h
  cases h with
  | twoCharacters => exact ⟨_, hread _ hinput, stripLineEnd_of_twoCharacters t⟩
  | oneCharacter h => exact ⟨_, hread _ hinput, stripLineEnd_of_oneCharacter h⟩
  | bare h => exact ⟨_, hread _ hinput, stripLineEnd_of_bare h⟩

/-! ## Runs -/

theorem Printed.exitCode_eq_zero_iff (p : Printed) : p.exitCode = 0 ↔ p.success = true := by
  rw [exitCode]
  cases p.success <;> simp

theorem ChecksText.run_eq (h : ChecksText i w filter given synonymFile)
    (hd : Delivers t given w.input) :
    i.run w libs = .ok (runText (Synonyms.loadOrEmpty w.files synonymFile) filter t) := by
  obtain ⟨s, hsettings, rfl⟩ := h.settings
  simp only [Invocation.run, hsettings, h.command]
  cases given with
  | some u =>
    cases hd
    rfl
  | none =>
    obtain ⟨u, hread, rfl⟩ := hd.readSource_eq
    simp only [Command.run, hread]
    rfl

/-- The words of a command for texts that has no options. -/
def textWords (filter : String) (given : Option String) : List String :=
  "text" :: "--" :: filter :: given.toList

theorem ofWords_textWords (filter : String) (given : Option String) :
    Invocation.ofWords (textWords filter given) =
      .ok ⟨none, none, false, .text filter given⟩ := by
  cases given <;> rfl

/-- The request to check a text by a filter. -/
def textRequest (filter t : String) : Json :=
  .object [("mode", .string "text"), ("filter", .string filter), ("input", .string t)]

theorem read?_textRequest (filter t : String) :
    Json.read? (textRequest filter t).compact = some (textRequest filter t) := by
  have hdepth : (textRequest filter t).depth ≤ Json.maxDepth := by
    simp [textRequest, Json.depth, Json.depthFields, Json.maxDepth]
  have hfield : ∀ name s, Json.rereadField (name, .string s) = some (name, .string s) :=
    fun _ _ => rfl
  rw [Json.read?_compact hdepth, textRequest, Json.reread, Json.rereadFields_eq_mapM]
  simp [hfield, Entries.ofList, Entries.set]

theorem respond_of_text {files : Files} {body : String} {request : Json} {causes : Causes}
    (hr : Json.read? body = some request) (hm : Debug.Given request "mode" (.string "text"))
    (hf : Debug.Given request "filter" (.string filter))
    (hi : Debug.Given request "input" (.string t))
    (hp : Synonyms.Provides files synonymFile table) :
    Debug.respond files synonymFile body causes =
      ⟨200, .object
        [("result", .bool ((Filter.parse filter).check (.text t) table).outcome)]⟩ := by
  have hhandle := Debug.handle_of_provides hr (Debug.filterAndMode_of_given hm hf) hp
  rw [Debug.evaluate_of_input _ _ hi] at hhandle
  exact Debug.respond_of_ok hhandle

/-- A text gets one answer, however it is delivered to its command: the command prints the outcome
of its check as a word and succeeds exactly if that is true. It is also the result in the answer to
each debug request with that text and that filter, and there is such a request. -/
theorem texts_agree {files : Files} (hp : Synonyms.Provides files synonymFile table)
    (filter t : String) (libs : Libraries) :
    let outcome := ((Filter.parse filter).check (.text t) table).outcome
    (∀ w words i given, w.files = files → Invocation.ofWords words = .ok i →
      ChecksText i w filter given synonymFile → Delivers t given w.input →
      ∃ p, run w words libs = .ok p ∧
        p.output = printLine (if outcome then "true" else "false") ∧
        (p.exitCode = 0 ↔ outcome = true)) ∧
    (∀ body request, Json.read? body = some request →
      Debug.Given request "mode" (.string "text") →
      Debug.Given request "filter" (.string filter) →
      Debug.Given request "input" (.string t) →
      Debug.respond files synonymFile body libs.causes =
        ⟨200, .object [("result", .bool outcome)]⟩) ∧
    Debug.respond files synonymFile (textRequest filter t).compact libs.causes =
      ⟨200, .object [("result", .bool outcome)]⟩ := by
  intro outcome
  refine ⟨?command, ?request, ?written⟩
  case command =>
    rintro w words i given rfl hwords hi hd
    refine ⟨runText table filter t, ?_, rfl, Printed.exitCode_eq_zero_iff _⟩
    rw [run, hwords, ← hp.loadOrEmpty_eq]
    exact hi.run_eq hd
  case request =>
    intro body request hr hm hf hi
    exact respond_of_text hr hm hf hi hp
  case written =>
    exact respond_of_text (read?_textRequest filter t) ⟨_, rfl, by simp [Entries.get?], by simp⟩
      ⟨_, rfl, by simp [Entries.get?], by simp⟩ ⟨_, rfl, by simp [Entries.get?], by simp⟩ hp

/-- A text that ends in a carriage return, as an operand and on standard input. -/
theorem texts_agree_carriage_return :
    let outcome := ((Filter.parse "/^a\\s$/").check (.text "a\r") .empty).outcome
    (∃ p, run ⟨Files.empty, .empty, []⟩ (textWords "/^a\\s$/" (some "a\r")) .plain = .ok p ∧
      p.output = printLine (if outcome then "true" else "false")) ∧
    (∃ p, run ⟨Files.empty, ("a\r" ++ "\r\n").toUTF8, []⟩ (textWords "/^a\\s$/" none) .plain =
        .ok p ∧
      p.output = printLine (if outcome then "true" else "false")) ∧
    Debug.respond Files.empty none (textRequest "/^a\\s$/" "a\r").compact .silent =
      ⟨200, .object [("result", .bool outcome)]⟩ := by
  intro outcome
  have hchecks : ∀ given input, ChecksText ⟨none, none, false, .text "/^a\\s$/" given⟩
      ⟨Files.empty, input, []⟩ "/^a\\s$/" given none :=
    fun _ _ => ⟨rfl, _, rfl, rfl⟩
  obtain ⟨hrun, -, hrespond⟩ := texts_agree .unset "/^a\\s$/" "a\r" .plain
  refine ⟨?_, ?_, hrespond⟩
  · obtain ⟨p, hp, houtput, -⟩ := hrun _ _ _ _ rfl (ofWords_textWords _ _) (hchecks _ _) .operand
    exact ⟨p, hp, houtput⟩
  · obtain ⟨p, hp, houtput, -⟩ :=
      hrun _ _ _ _ rfl (ofWords_textWords _ _) (hchecks _ _) .twoCharacters
    exact ⟨p, hp, houtput⟩

end RecordFilter.CommandLine
