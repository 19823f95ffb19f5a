import RecordFilter.Proofs.Checking.Attempts
import RecordFilter.Proofs.Reading.Fresh
import RecordFilter.Session

/-!
# The lineage of a slot

What is kept in the filter of a slot depends on the checks it went through since its text was read,
in this slot or, before it was cloned, in the slot it comes from. `lineage` tells them from the
steps of a session alone. The filter in a slot is the one that its text reads as, with the patterns
compiled that one of these checks attempted; so no answer depends on what is kept, and each unusable
pattern is noticed at the first check of its lineage that attempts it, and at no other.
-/

namespace RecordFilter.Session

/-! ## Runs -/

variable {s : Session} {steps earlier : List Step} {t : Step} {slot name : String}

/-- The session after a step; one that fails changes nothing. -/
def next (s : Session) (t : Step) : Session :=
  match s.step t with
  | .ok (s', _) => s'
  | .error _ => s

/-- The session after some steps from the start, the last one first. -/
def after : List Step → Session
  | [] => start
  | t :: earlier => (after earlier).next t

theorem run_cons (s : Session) (t : Step) (steps : List Step) :
    s.run (t :: steps) =
      (((s.next t).run steps).1, (s.step t).map Prod.snd :: ((s.next t).run steps).2) := by
  rw [run, next]
  cases s.step t <;> rfl

theorem answers_cons (s : Session) (t : Step) (steps : List Step) :
    (s.run (t :: steps)).2 = (s.step t).map Prod.snd :: ((s.next t).run steps).2 := by
  rw [run_cons]

theorem run_append (s : Session) (steps more : List Step) :
    s.run (steps ++ more) = (((s.run steps).1.run more).1,
      (s.run steps).2 ++ ((s.run steps).1.run more).2) := by
  induction steps generalizing s with
  | nil => rfl
  | cons t steps ih => rw [List.cons_append, run_cons, run_cons, ih, List.cons_append]

theorem length_answers (s : Session) (steps : List Step) :
    (s.run steps).2.length = steps.length := by
  induction steps generalizing s with
  | nil => rfl
  | cons t steps ih => rw [run_cons, List.length_cons, List.length_cons, ih]

/-- The answer to a step of a run is that of the session after the steps before it. -/
theorem answer_getElem? (s : Session) (steps : List Step) (t : Step) (later : List Step) :
    (s.run (steps ++ t :: later)).2[steps.length]? =
      some (((s.run steps).1.step t).map Prod.snd) := by
  have hlength := length_answers s steps
  rw [run_append, run_cons, List.getElem?_append_right (Nat.le_of_eq hlength), hlength,
    Nat.sub_self]
  rfl

theorem after_reverse (steps : List Step) : after steps.reverse = (start.run steps).1 := by
  induction steps using List.reverseRecOn with
  | nil => rfl
  | append_singleton steps t ih =>
    rw [List.reverse_append, List.reverse_singleton, List.singleton_append, after, ih, run_append,
      run_cons]
    rfl

/-! ## Lineages -/

/-- What the filter in a slot went through since its text was read: the checks, last one first, each
with its subject and the table there was, and the faults that they reported. -/
structure Lineage where
  text : String
  checks : List (Subject × Synonyms)
  notices : List PatternFault

namespace Lineage

/-- The lineage of a filter that was just read. -/
def ofText (text : String) : Lineage := ⟨text, [], []⟩

/-- The lineage after one more check. -/
def checked (l : Lineage) (subject : Subject) (synonyms : Synonyms) (faults : List PatternFault) :
    Lineage :=
  ⟨l.text, (subject, synonyms) :: l.checks, l.notices ++ faults⟩

/-- The filter that the text of the lineage reads as. -/
def filter (l : Lineage) : Filter := Filter.parse l.text

/-- Whether one of the checks attempted the pattern at a position. -/
def Tried (l : Lineage) (path : List Nat) : Prop :=
  ∃ c ∈ l.checks, l.filter.Attempts c.1 c.2 path

/-- How the filter in a slot follows from its lineage. -/
structure Describes (l : Lineage) (f : Filter) : Prop where
  forget_eq : f.forget = l.filter
  keeps : f.Keeps l.Tried
  notices : ListsOnce (fun path fault => l.Tried path ∧ l.filter.HasFault path fault) l.notices

variable {l : Lineage} {f : Filter}

@[simp] theorem not_tried_ofText (text : String) (path : List Nat) :
    ¬ (ofText text).Tried path := by
  simp [Tried, ofText]

theorem tried_checked (subject : Subject) (synonyms : Synonyms) (faults : List PatternFault)
    (path : List Nat) :
    (l.checked subject synonyms faults).Tried path ↔
      l.Tried path ∨ l.filter.Attempts subject synonyms path := by
  simp [Tried, checked, filter, or_comm]

theorem describes_ofText (text : String) : (ofText text).Describes (Filter.parse text) where
  forget_eq := Filter.forget_parse text
  keeps := (Filter.keeps_nothing (Filter.forget_parse text)).congr fun path => by simp
  notices := (listsInOrder_nil fun path fault h => not_tried_ofText text path h.1).once

theorem Describes.compiled_iff (h : l.Describes f) (path : List Nat) :
    f.Compiled path ↔ l.Tried path := by
  refine h.keeps.compiled_iff ?_
  rintro ⟨c, -, ha⟩
  rw [← h.forget_eq, Filter.attempts_forget_iff] at ha
  exact ha.exists_occurs

/-- What a check answers, from the lineage of the filter. -/
theorem Describes.check (h : l.Describes f) (subject : Subject) (synonyms : Synonyms) :
    (f.check subject synonyms).outcome = l.filter.accepts subject synonyms ∧
      ListsInOrder
        (fun path fault => l.filter.Attempts subject synonyms path ∧ ¬ l.Tried path ∧
          l.filter.HasFault path fault)
        (f.check subject synonyms).faults := by
  constructor
  · rw [Filter.check_outcome subject synonyms h.keeps.isFaithful, ← h.forget_eq,
      Filter.accepts_forget]
  · refine (Filter.check_follows h.keeps subject synonyms).faults.congr fun path fault => ?_
    rw [← h.forget_eq, Filter.attempts_forget_iff, Filter.hasFault_forget_iff]

/-- A check answers what checking the filter as it was read does. -/
theorem Describes.outcome_eq (h : l.Describes f) (subject : Subject) (synonyms : Synonyms) :
    (f.check subject synonyms).outcome = (l.filter.check subject synonyms).outcome := by
  have hfresh := (describes_ofText l.text).check subject synonyms
  exact (h.check subject synonyms).1.trans hfresh.1.symm

/-- Neither equality nor the JSON form tells the filter from the one that was read. -/
theorem Describes.same (h : l.Describes f) :
    f.same l.filter ∧ l.filter.same f ∧ f.toJson = l.filter.toJson := by
  have hsame : f.same l.filter := by
    rw [← Filter.same_forget, h.forget_eq]
    exact Filter.same_parse l.text
  refine ⟨hsame, by rwa [Filter.same_comm], ?_⟩
  rw [← Filter.toJson_forget, h.forget_eq]

/-- The lineage goes on with each check. -/
theorem Describes.after_check (h : l.Describes f) (subject : Subject) (synonyms : Synonyms) :
    (l.checked subject synonyms (f.check subject synonyms).faults).Describes
      (f.check subject synonyms).after := by
  have hcheck := (h.check subject synonyms).2
  constructor
  · rw [Filter.forget_after_check]
    exact h.forget_eq
  · refine (Filter.check_follows h.keeps subject synonyms).keeps.congr fun path => ?_
    rw [tried_checked, ← h.forget_eq, Filter.attempts_forget_iff]
  · refine (h.notices.append hcheck.once ?_).congr fun path fault => ?_
    · intro path fault fault' hold hnew
      exact hnew.2.1 hold.1
    · rw [tried_checked]
      by_cases ht : l.Tried path <;> simp [ht, checked, filter]

end Lineage

/-- The faults that a check of a slot reports. -/
def reported (s : Session) (slot : String) (subject : Subject) : List PatternFault :=
  match s.step (.check slot subject) with
  | .ok (_, .checked _ faults) => faults
  | _ => []

/-- The lineage of the filter in a slot after some steps, the last one first. -/
def lineage : List Step → String → Option Lineage
  | [], _ => none
  | .parse slot text :: earlier, name =>
    if name = slot then some (.ofText text) else lineage earlier name
  | .clone source slot :: earlier, name =>
    if name = slot then (lineage earlier source).or (lineage earlier slot)
    else lineage earlier name
  | .check slot subject :: earlier, name =>
    if name = slot then
      (lineage earlier slot).map fun l =>
        l.checked subject (after earlier).synonyms ((after earlier).reported slot subject)
    else lineage earlier name
  | _ :: earlier, name => lineage earlier name

/-! ## The filters of a session -/

/-- Whether a step may change what is in the slots. -/
def Step.changesSlots : Step → Bool
  | .parse _ _ | .clone _ _ | .check _ _ => true
  | _ => false

theorem slots_withTable {E : Type} {x : Except E Synonyms} {fault : E → Failure} {s' : Session}
    {a : Answer} (h : (x.map s.withTable).mapError fault = .ok (s', a)) : s'.slots = s.slots := by
  cases x with
  | error e => cases h
  | ok t =>
    cases h
    rfl

theorem slots_step {s' : Session} {a : Answer} (ht : t.changesSlots = false)
    (h : s.step t = .ok (s', a)) : s'.slots = s.slots := by
  cases t with
  | parse | clone | check => cases ht
  | table | load | loadOptional => exact slots_withTable h
  | equal a b =>
    cases ha : s.slot a <;> cases hb : s.slot b <;> simp only [step, ha, hb] at h <;> cases h
    rfl
  | _ =>
    cases h
    rfl

theorem slots_next (ht : t.changesSlots = false) : (s.next t).slots = s.slots := by
  unfold next
  split
  · next s' a h => exact slots_step ht h
  · rfl

theorem slot_of_some {f : Filter} (h : s.slots slot = some f) : s.slot slot = .ok f := by
  rw [Session.slot, h]

theorem slot_of_none (h : s.slots slot = none) : s.slot slot = .error (.noSlot slot) := by
  rw [Session.slot, h]

theorem next_parse (s : Session) (slot text : String) :
    s.next (.parse slot text) = s.setSlot slot (Filter.parse text) := rfl

theorem step_check {f : Filter} (h : s.slots slot = some f) (subject : Subject) :
    s.step (.check slot subject) =
      .ok (s.setSlot slot (f.check subject s.synonyms).after,
        .checked (f.check subject s.synonyms).outcome (f.check subject s.synonyms).faults) := by
  rw [step, slot_of_some h]
  rfl

theorem reported_eq {f : Filter} (h : s.slots slot = some f) (subject : Subject) :
    s.reported slot subject = (f.check subject s.synonyms).faults := by
  rw [reported, step_check h]

theorem next_check {f : Filter} (h : s.slots slot = some f) (subject : Subject) :
    s.next (.check slot subject) = s.setSlot slot (f.check subject s.synonyms).after := by
  rw [next, step_check h]

theorem next_check_of_none (h : s.slots slot = none) (subject : Subject) :
    s.next (.check slot subject) = s := by
  rw [next, step, slot_of_none h]
  rfl

theorem step_clone {source : String} {f : Filter} (h : s.slots source = some f) (slot : String) :
    s.step (.clone source slot) = .ok (s.setSlot slot f, .done) := by
  rw [step, slot_of_some h]
  rfl

theorem next_clone {source : String} {f : Filter} (h : s.slots source = some f) (slot : String) :
    s.next (.clone source slot) = s.setSlot slot f := by
  rw [next, step_clone h]

theorem next_clone_of_none {source : String} (h : s.slots source = none) (slot : String) :
    s.next (.clone source slot) = s := by
  rw [next, step, slot_of_none h]
  rfl

/-- A filter and its clone answer a check alike. -/
theorem answers_clone_check {copy : String} {f : Filter} (h : s.slots slot = some f)
    (hcopy : copy ≠ slot) (subject : Subject) :
    (s.run [.clone slot copy, .check slot subject, .check copy subject]).2 =
      let answer := .checked (f.check subject s.synonyms).outcome
        (f.check subject s.synonyms).faults
      [.ok .done, .ok answer, .ok answer] := by
  have hslot : (s.setSlot copy f).slots slot = some f := by
    rw [setSlot_of_ne hcopy.symm, h]
  have hclone : ((s.setSlot copy f).setSlot slot (f.check subject s.synonyms).after).slots copy =
      some f := by
    rw [setSlot_of_ne hcopy, setSlot_self]
  rw [answers_cons, step_clone h, next_clone h, answers_cons, step_check hslot, next_check hslot,
    answers_cons, synonyms_setSlot, step_check hclone]
  rfl

theorem rel_cases {α β : Type} {r : α → β → Prop} {a : Option α} {b : Option β}
    (h : Option.Rel r a b) :
    (a = none ∧ b = none) ∨ ∃ x y, a = some x ∧ b = some y ∧ r x y := by
  cases h with
  | none => exact .inl ⟨rfl, rfl⟩
  | some h => exact .inr ⟨_, _, rfl, rfl, h⟩

theorem rel_setSlot {lineages : String → Option Lineage} {l : Lineage} {f : Filter}
    (hs : ∀ name, Option.Rel Lineage.Describes (lineages name) (s.slots name))
    (h : l.Describes f) (slot name : String) :
    Option.Rel Lineage.Describes (if name = slot then some l else lineages name)
      ((s.setSlot slot f).slots name) := by
  split
  · next hn =>
    rw [hn, setSlot_self]
    exact .some h
  · next hn =>
    rw [setSlot_of_ne hn]
    exact hs name

/-- Each filter follows from its lineage, after any steps. -/
theorem describes_after (steps : List Step) (name : String) :
    Option.Rel Lineage.Describes (lineage steps name) ((after steps).slots name) := by
  induction steps generalizing name with
  | nil => exact .none
  | cons t earlier ih =>
    rw [after]
    cases t with
    | parse slot text =>
      rw [next_parse]
      exact rel_setSlot ih (Lineage.describes_ofText text) slot name
    | clone source slot =>
      rw [lineage]
      rcases rel_cases (ih source) with ⟨hl, hf⟩ | ⟨l, f, hl, hf, hd⟩
      · rw [hl, Option.none_or, next_clone_of_none hf]
        split
        · next hn => exact hn ▸ ih name
        · exact ih name
      · rw [hl, Option.some_or, next_clone hf]
        exact rel_setSlot ih hd slot name
    | check slot subject =>
      rw [lineage]
      rcases rel_cases (ih slot) with ⟨hl, hf⟩ | ⟨l, f, hl, hf, hd⟩
      · rw [hl, Option.map_none, next_check_of_none hf]
        split
        · next hn =>
          rw [hn, hf]
          exact .none
        · exact ih name
      · rw [hl, Option.map_some, next_check hf, reported_eq hf]
        exact rel_setSlot ih (hd.after_check subject _) slot name
    | _ =>
      rw [slots_next rfl]
      exact ih name

theorem describes_run {earlier : List Step} {l : Lineage}
    (h : lineage earlier.reverse slot = some l) :
    ∃ f, (start.run earlier).1.slots slot = some f ∧ l.Describes f := by
  have hrel := describes_after earlier.reverse slot
  rw [h, after_reverse] at hrel
  rcases rel_cases hrel with ⟨hl, -⟩ | ⟨l', f, hl, hf, hd⟩
  · cases hl
  · cases hl
    exact ⟨f, hf, hd⟩

/-! ## What a check answers -/

/-- The outcome of a check does not depend on what is kept: it is that of checking the filter of the
slot as it reads from its text, with the table there is, where nothing is kept. Nor does equality
or the JSON form show what is kept. -/
theorem outcome_check (earlier later : List Step) (slot : String) (subject : Subject) :
    (∃ notices, (start.run (earlier ++ .check slot subject :: later)).2[earlier.length]? =
      some (match lineage earlier.reverse slot with
        | none => .error (.noSlot slot)
        | some l =>
          .ok (.checked
            ((Filter.parse l.text).check subject (start.run earlier).1.synonyms).outcome
            notices))) ∧
      (∀ text subject synonyms,
        ((Filter.parse text).check subject synonyms).outcome =
          (Filter.parse text).accepts subject synonyms) ∧
      (∀ name, Option.Rel
        (fun l f => f.same (Filter.parse l.text) ∧ (Filter.parse l.text).same f ∧
          f.toJson = (Filter.parse l.text).toJson)
        (lineage earlier.reverse name) ((start.run earlier).1.slots name)) ∧
      ∀ f g : Filter, ∀ subject synonyms,
        (f.check subject synonyms).after.same g = f.same g ∧
          g.same (f.check subject synonyms).after = g.same f ∧
          (f.check subject synonyms).after.toJson = f.toJson := by
  have hrel := describes_after earlier.reverse
  rw [after_reverse] at hrel
  refine ⟨?_, fun text subject synonyms => ?_, fun name => ?_,
    fun f g subject synonyms => ⟨?_, ?_, ?_⟩⟩
  · rcases rel_cases (hrel slot) with ⟨hl, hf⟩ | ⟨l, f, hl, hf, hd⟩
    · refine ⟨[], ?_⟩
      rw [answer_getElem?, hl, step, slot_of_none hf]
      rfl
    · refine ⟨(f.check subject (start.run earlier).1.synonyms).faults, ?_⟩
      rw [answer_getElem?, hl, step_check hf, hd.outcome_eq]
      rfl
  · exact ((Lineage.describes_ofText text).check subject synonyms).1
  · rcases rel_cases (hrel name) with ⟨hl, hf⟩ | ⟨l, f, hl, hf, hd⟩
    · rw [hl, hf]
      exact .none
    · rw [hl, hf]
      exact .some hd.same
  · exact Filter.same_after_check subject synonyms f g
  · rw [Filter.same_comm, Filter.same_after_check, Filter.same_comm]
  · exact Filter.toJson_after_check subject synonyms f

/-- The notices of a check: the faults of the unusable patterns that it attempts and that no check
of the lineage attempted before, in the order of evaluation. -/
theorem notices_check {earlier : List Step} {l : Lineage}
    (h : lineage earlier.reverse slot = some l) (later : List Step) (subject : Subject) :
    ∃ outcome notices,
      (start.run (earlier ++ .check slot subject :: later)).2[earlier.length]? =
          some (.ok (.checked outcome notices)) ∧
        ListsInOrder
          (fun path fault =>
            (Filter.parse l.text).Attempts subject (start.run earlier).1.synonyms path ∧
              ¬ l.Tried path ∧ (Filter.parse l.text).HasFault path fault)
          notices ∧
        (∃ f f', (start.run earlier).1.slots slot = some f ∧
          (start.run (earlier ++ [.check slot subject])).1.slots slot = some f' ∧
          ∀ path, (f.Compiled path ↔ l.Tried path) ∧
            (f'.Compiled path ↔ l.Tried path ∨
              (Filter.parse l.text).Attempts subject (start.run earlier).1.synonyms path)) ∧
        ListsOnce (fun path fault => l.Tried path ∧ (Filter.parse l.text).HasFault path fault)
          l.notices ∧
        ∀ copy, copy ≠ slot →
          (start.run (earlier ++ [.clone slot copy, .check slot subject, .check copy subject])).2 =
            (start.run earlier).2 ++
              [.ok .done, .ok (.checked outcome notices), .ok (.checked outcome notices)] := by
  obtain ⟨f, hf, hd⟩ := describes_run h
  have hcheck := hd.check subject (start.run earlier).1.synonyms
  have hafter := hd.after_check subject (start.run earlier).1.synonyms
  refine ⟨_, _, by rw [answer_getElem?, step_check hf]; rfl, hcheck.2, ?_, hd.notices, ?_⟩
  · refine ⟨f, (f.check subject (start.run earlier).1.synonyms).after, hf, ?_,
      fun path => ⟨hd.compiled_iff path, ?_⟩⟩
    · rw [run_append, run_cons, next_check hf]
      exact setSlot_self _ _ _
    · rw [hafter.compiled_iff, Lineage.tried_checked]
      rfl
  · intro copy hcopy
    rw [run_append, answers_clone_check hf hcopy]

/-- Two unusable patterns are noticed at the first check that attempts them, and not at the next. -/
theorem notices_check_again :
    lineage [.check "a" (.text "x"), .parse "a" "/x/gi or /(/"] "a" =
        some ⟨"/x/gi or /(/", [(.text "x", .empty)], [.unsupportedFlag 'g', .invalidPattern]⟩ ∧
      ∃ outcome, (start.run [.parse "a" "/x/gi or /(/", .check "a" (.text "x"),
        .check "a" (.text "x")]).2[2]? = some (.ok (.checked outcome [])) := by
  have h : lineage [Step.parse "a" "/x/gi or /(/", .check "a" (.text "x")].reverse "a" =
      some ⟨"/x/gi or /(/", [(.text "x", .empty)], [.unsupportedFlag 'g', .invalidPattern]⟩ := by
    cbv
  have htable : (start.run [.parse "a" "/x/gi or /(/", .check "a" (.text "x")]).1.synonyms =
      .empty := by
    cbv
  obtain ⟨outcome, notices, hanswer, hnotices, -⟩ := notices_check h [] (.text "x")
  obtain ⟨located, rfl, -, hmem⟩ := hnotices
  have hnone : located = [] := by
    rw [List.eq_nil_iff_forall_not_mem]
    rintro ⟨path, fault⟩ hin
    obtain ⟨hattempts, htried, -⟩ := (hmem path fault).mp hin
    rw [htable] at hattempts
    exact htried ⟨(.text "x", .empty), by simp, hattempts⟩
  subst hnone
  exact ⟨h, outcome, hanswer⟩

end RecordFilter.Session
