import RecordFilter.Proofs.FrontEnds.Threads

/-!
# What a broken file of synonyms does

Commands that check texts or records make do without synonyms: of their file of synonyms they see
the table alone, and a broken file gives the empty one, as if there were no file. Loading a table
that is needed, and debug requests, stop at a broken file instead.
-/

namespace RecordFilter

namespace Synonyms

/-- There is no file of synonyms: none is named, or the one that is named is missing. -/
def IsAbsent (files : Files) (name? : Option String) : Prop :=
  ∀ name, name? = some name → files name = .missing

variable {files : Files} {name : String} {name? : Option String} {table : Synonyms} {text : String}

theorem IsAbsent.provides (h : IsAbsent files name?) : Provides files name? empty := by
  cases name? with
  | none => exact .unset
  | some name => exact .missing (h name rfl)

/-- What is said of a broken file is the same whether a table is needed or not. -/
theorem IsBroken.loads (h : IsBroken (files name)) :
    loadOrEmpty files (some name) = empty ∧
      ∃ e, loadOptional files (some name) = .error e ∧ load files name = .error e := by
  obtain ⟨e, hb⟩ := h.exists_breaks
  exact ⟨hb.loadOrEmpty_eq, e, hb.loadOptional_eq, load_of_breaks hb⟩

/-- A missing file stops only where a table is needed. -/
theorem loads_of_missing (h : files name = .missing) :
    loadOrEmpty files (some name) = empty ∧ loadOptional files (some name) = .ok empty ∧
      load files name = .error (.unreadable name .missing) :=
  ⟨(Provides.missing h).loadOrEmpty_eq, (Provides.missing h).loadOptional_eq, load_of_missing h⟩

/-- A file that describes a table gives it everywhere. -/
theorem loads_of_text (ht : (files name).text? = some text) (hd : ofDocument? text = some table) :
    loadOrEmpty files (some name) = table ∧ loadOptional files (some name) = .ok table ∧
      load files name = .ok table :=
  ⟨(Provides.loaded ht hd).loadOrEmpty_eq, (Provides.loaded ht hd).loadOptional_eq,
    load_of_text ht hd⟩

end Synonyms

namespace Debug

variable {files : Files} {name text body : String} {request mode : Json} {causes : Causes}

/-- A request that names a filter does not get past a broken file, whatever else is in it. -/
theorem respond_status_of_broken (h : Synonyms.IsBroken (files name))
    (hr : Json.read? body = some request) (hm : Given request "mode" mode)
    (hf : Given request "filter" (.string text)) :
    (respond files (some name) body causes).status = 500 := by
  obtain ⟨e, hb⟩ := h.exists_breaks
  rw [respond_of_error (handle_of_breaks hr (filterAndMode_of_given hm hf) hb)]
  rfl

end Debug

namespace CommandLine

/-- The commands that check texts or records. -/
inductive Command.Checks : Command → Prop
  | text (filter : String) (text? : Option String) : Checks (.text filter text?)
  | records (filter source : String) (sequential : Bool) :
      Checks (.records filter source sequential)

variable {w w' : Surroundings} {c : Command} {i j : Invocation} {s s' : Settings} {name : String}
  {libs : Libraries}

/-- A command finds the same text in both surroundings, if it reads any. -/
def Command.ReadsSame (c : Command) (w w' : Surroundings) : Prop :=
  ∀ source, c.source? = some source → readSource w source = readSource w' source

/-- Whether a command goes through records on several threads. -/
def Command.onThreads : Command → Settings → Bool
  | records _ _ sequential, s => s.parallel && !sequential
  | _, _ => false

/-- Commands that check see only the table of a file of synonyms. -/
theorem Command.Checks.run_congr (hc : c.Checks) (hs : c.ReadsSame w w')
    (ht : Synonyms.loadOrEmpty w.files s.synonyms = Synonyms.loadOrEmpty w'.files s'.synonyms)
    (hthreads : c.onThreads s = c.onThreads s') : c.run w s libs = c.run w' s' libs := by
  cases hc with
  | text filter text? =>
    cases text? with
    | none =>
      have hread := hs standardInput rfl
      simp only [Command.run, hread, ht]
    | some t => simp only [Command.run, ht]
  | records filter source sequential =>
    have hread := hs source rfl
    have hparallel : (s.parallel && !sequential) = (s'.parallel && !sequential) := hthreads
    simp only [Command.run, hread, ht, hparallel]

/-- Nor do threads make a difference to what they come to. -/
theorem Command.Checks.sameRun (hl : libs.CollectsInOrder) (hc : c.Checks) (hs : c.ReadsSame w w')
    (ht : Synonyms.loadOrEmpty w.files s.synonyms = Synonyms.loadOrEmpty w'.files s'.synonyms) :
    SameRun (c.run w s libs) (c.run w' s' libs) := by
  cases hc with
  | text filter text? =>
    have hrun : Command.run (.text filter text?) w s libs =
        Command.run (.text filter text?) w' s' libs :=
      (Checks.text filter text?).run_congr hs ht rfl
    rw [hrun]
    exact .refl
  | records filter source sequential =>
    have hread := hs source rfl
    simp only [Command.run, hread, ht]
    cases readSource w' source with
    | error e => exact .refl
    | ok text => exact sameRun_runRecords hl _ _ _ _ _

theorem Invocation.run_of_settings (h : i.settings? w.files w.environment = some s) :
    i.run w libs = i.command.run w s libs := by
  simp only [Invocation.run, h]

/-- With a broken file of synonyms a command that checks does what it does with none. -/
theorem Invocation.run_eq_of_broken (h : Synonyms.IsBroken (w.files name))
    (hi : i.settings? w.files w.environment = some s) (hname : s.synonyms = some name)
    (hj : j.settings? w'.files w'.environment = some s')
    (habsent : Synonyms.IsAbsent w'.files s'.synonyms) (hcommand : i.command = j.command)
    (hc : j.command.Checks) (hs : j.command.ReadsSame w w') :
    (j.command.onThreads s = j.command.onThreads s' → i.run w libs = j.run w' libs) ∧
      (libs.CollectsInOrder → SameRun (i.run w libs) (j.run w' libs)) := by
  have htable : Synonyms.loadOrEmpty w.files s.synonyms =
      Synonyms.loadOrEmpty w'.files s'.synonyms := by
    rw [hname]
    exact h.loads.1.trans habsent.provides.loadOrEmpty_eq.symm
  rw [run_of_settings hi, run_of_settings hj, hcommand]
  exact ⟨hc.run_congr hs htable, fun hl => hc.sameRun hl hs htable⟩

/-- A broken file of synonyms gives the empty table where synonyms are optional, so that commands
that check come to what they come to without such a file; only threads may make them name another
value that is no record. Wherever a table is asked for it is an error, and a debug request with a
mode and a filter fails, whatever the mode and the rest are. A missing file is an error only where a
table is needed, and a file with a table gives it everywhere. -/
theorem synonyms_in_every_state (w : Surroundings) (name : String) (libs : Libraries) :
    (Synonyms.IsBroken (w.files name) →
      (Synonyms.loadOrEmpty w.files (some name) = Synonyms.empty ∧
        ∃ e, Synonyms.loadOptional w.files (some name) = .error e ∧
          Synonyms.load w.files name = .error e) ∧
      (∀ i s, Invocation.settings? i w.files w.environment = some s → s.synonyms = some name →
        ∀ j w' s', Invocation.settings? j w'.files w'.environment = some s' →
          Synonyms.IsAbsent w'.files s'.synonyms → i.command = j.command →
          j.command.Checks → j.command.ReadsSame w w' →
          (j.command.onThreads s = j.command.onThreads s' → i.run w libs = j.run w' libs) ∧
            (libs.CollectsInOrder → SameRun (i.run w libs) (j.run w' libs))) ∧
      (∀ body request mode text, Json.read? body = some request →
        Debug.Given request "mode" mode → Debug.Given request "filter" (.string text) →
        (Debug.respond w.files (some name) body libs.causes).status = 500)) ∧
    (w.files name = .missing →
      Synonyms.loadOrEmpty w.files (some name) = Synonyms.empty ∧
        Synonyms.loadOptional w.files (some name) = .ok Synonyms.empty ∧
        Synonyms.load w.files name = .error (.unreadable name .missing)) ∧
    (∀ text table, (w.files name).text? = some text → Synonyms.ofDocument? text = some table →
      Synonyms.loadOrEmpty w.files (some name) = table ∧
        Synonyms.loadOptional w.files (some name) = .ok table ∧
        Synonyms.load w.files name = .ok table) := by
  refine ⟨fun h => ⟨h.loads, ?_, ?_⟩, Synonyms.loads_of_missing, ?_⟩
  · intro i s hi hname j w' s' hj habsent hcommand hc hs
    exact Invocation.run_eq_of_broken h hi hname hj habsent hcommand hc hs
  · intro body request mode text hr hm hf
    exact Debug.respond_status_of_broken h hr hm hf
  · intro text table ht hd
    exact Synonyms.loads_of_text ht hd

/-- A text is checked with a directory in the place of its synonyms as it is without synonyms. -/
theorem synonyms_in_every_state_directory :
    Invocation.run ⟨none, some "s.yml", false, .text "a" (some "b a")⟩
        ⟨Files.empty.set "s.yml" .directory, .empty, []⟩ .plain =
      Invocation.run ⟨none, none, false, .text "a" (some "b a")⟩ ⟨Files.empty, .empty, []⟩
        .plain := by
  have hbroken : Synonyms.IsBroken (Files.empty.set "s.yml" .directory "s.yml") := by
    rw [Files.set_self]
    exact ⟨by simp, fun text ht => by cases ht⟩
  have hstates :=
    synonyms_in_every_state ⟨Files.empty.set "s.yml" .directory, .empty, []⟩ "s.yml" .plain
  obtain ⟨-, hcommands, -⟩ := hstates.1 hbroken
  obtain ⟨hrun, -⟩ := hcommands ⟨none, some "s.yml", false, .text "a" (some "b a")⟩
    ⟨some "s.yml", true⟩ rfl rfl ⟨none, none, false, .text "a" (some "b a")⟩
    ⟨Files.empty, .empty, []⟩ ⟨none, true⟩ rfl (fun name h => by cases h) rfl (.text _ _)
    (fun source h => by cases h)
  exact hrun rfl

end CommandLine

end RecordFilter
