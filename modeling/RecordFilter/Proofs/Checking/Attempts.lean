import RecordFilter.Proofs.Checking.Outcomes

/-!
# Attempts

Which patterns an evaluation comes to, said without looking at what is kept: a term of a joined
filter is evaluated if all terms before it leave the answer open, and a pattern is attempted if it
is looked for in a text or put against a field that has a text. A check compiles exactly the
patterns that are attempted and not compiled yet, and gives the faults of those among them that are
unusable, in the order of their positions, which is that of evaluation.
-/

namespace RecordFilter

/-! ## Lists of what stands at positions -/

section Lists

variable {α : Type} {P Q : List Nat → α → Prop} {l m : List α}

/-- The list of what `P` has at each position, in the order of the positions. -/
def ListsInOrder (P : List Nat → α → Prop) (l : List α) : Prop :=
  ∃ located : List (List Nat × α), located.map Prod.snd = l ∧
    (located.map Prod.fst).Pairwise (· < ·) ∧ ∀ path a, (path, a) ∈ located ↔ P path a

/-- A list of what `P` has at each position, each position once. -/
def ListsOnce (P : List Nat → α → Prop) (l : List α) : Prop :=
  ∃ located : List (List Nat × α), located.map Prod.snd = l ∧
    (located.map Prod.fst).Nodup ∧ ∀ path a, (path, a) ∈ located ↔ P path a

theorem ListsInOrder.once (h : ListsInOrder P l) : ListsOnce P l := by
  obtain ⟨located, rfl, ho, hm⟩ := h
  exact ⟨located, rfl, ho.imp fun hlt => ne_of_lt hlt, hm⟩

theorem ListsInOrder.congr (h : ListsInOrder P l) (hpq : ∀ path a, P path a ↔ Q path a) :
    ListsInOrder Q l := by
  obtain ⟨located, hl, ho, hm⟩ := h
  exact ⟨located, hl, ho, fun path a => (hm path a).trans (hpq path a)⟩

theorem ListsOnce.congr (h : ListsOnce P l) (hpq : ∀ path a, P path a ↔ Q path a) :
    ListsOnce Q l := by
  obtain ⟨located, hl, ho, hm⟩ := h
  exact ⟨located, hl, ho, fun path a => (hm path a).trans (hpq path a)⟩

theorem listsInOrder_nil (h : ∀ path a, ¬ P path a) : ListsInOrder P [] :=
  ⟨[], rfl, .nil, fun path a => by simpa using h path a⟩

theorem listsInOrder_singleton (path : List Nat) (a : α) :
    ListsInOrder (fun path' a' => path' = path ∧ a' = a) [a] :=
  ⟨[(path, a)], rfl, List.pairwise_singleton _ _, fun path' a' => by simp⟩

/-- Positions moved by a map that keeps their order. -/
theorem ListsInOrder.image (h : ListsInOrder P l) (move : List Nat → List Nat)
    (hmove : ∀ path path', path < path' → move path < move path') :
    ListsInOrder (fun path a => ∃ old, path = move old ∧ P old a) l := by
  obtain ⟨located, rfl, ho, hm⟩ := h
  refine ⟨located.map fun e => (move e.1, e.2), by simp, ?_, ?_⟩
  · rw [List.map_map]
    rw [List.pairwise_map] at ho ⊢
    exact ho.imp (hmove _ _)
  · intro path a
    simp only [List.mem_map, Prod.exists, Prod.mk.injEq]
    constructor
    · rintro ⟨old, b, hb, rfl, rfl⟩
      exact ⟨old, rfl, (hm old b).mp hb⟩
    · rintro ⟨old, rfl, ha⟩
      exact ⟨old, a, (hm old a).mpr ha, rfl, rfl⟩

theorem ListsInOrder.append (hl : ListsInOrder P l) (hm : ListsInOrder Q m)
    (h : ∀ path a path' b, P path a → Q path' b → path < path') :
    ListsInOrder (fun path a => P path a ∨ Q path a) (l ++ m) := by
  obtain ⟨left, rfl, hlo, hlm⟩ := hl
  obtain ⟨right, rfl, hro, hrm⟩ := hm
  refine ⟨left ++ right, List.map_append .., ?_, fun path a => by simp [hlm, hrm]⟩
  rw [List.map_append, List.pairwise_append]
  refine ⟨hlo, hro, ?_⟩
  intro path hpath path' hpath'
  obtain ⟨⟨_, a⟩, ha, rfl⟩ := List.mem_map.mp hpath
  obtain ⟨⟨_, b⟩, hb, rfl⟩ := List.mem_map.mp hpath'
  exact h _ a _ b ((hlm _ a).mp ha) ((hrm _ b).mp hb)

theorem ListsOnce.append (hl : ListsOnce P l) (hm : ListsOnce Q m)
    (h : ∀ path a b, P path a → ¬ Q path b) :
    ListsOnce (fun path a => P path a ∨ Q path a) (l ++ m) := by
  obtain ⟨left, rfl, hlo, hlm⟩ := hl
  obtain ⟨right, rfl, hro, hrm⟩ := hm
  refine ⟨left ++ right, List.map_append .., ?_, fun path a => by simp [hlm, hrm]⟩
  rw [List.map_append, List.nodup_append]
  refine ⟨hlo, hro, ?_⟩
  rintro path hpath path' hpath' rfl
  obtain ⟨⟨_, a⟩, ha, rfl⟩ := List.mem_map.mp hpath
  obtain ⟨⟨_, b⟩, hb, heq⟩ := List.mem_map.mp hpath'
  cases heq
  exact h _ a b ((hlm _ a).mp ha) ((hrm _ b).mp hb)

end Lists

/-! ## Unusable patterns -/

/-- The faults of a pattern literal: the first flag that is none, and a pattern that cannot be read
if all flags are. -/
inductive PatternLiteral.Unusable (p : PatternLiteral) : PatternFault → Prop
  | flag (hflags : p.flags.toList = before ++ c :: after)
      (hbefore : ∀ a ∈ before, a ∈ ['i', 'm', 's', 'x', 'u'])
      (hc : c ∉ ['i', 'm', 's', 'x', 'u']) : Unusable p (.unsupportedFlag c)
  | pattern (hflags : ∀ a ∈ p.flags.toList, a ∈ ['i', 'm', 's', 'x', 'u'])
      (hread :
        Pattern.ofText? (PatternOptions.unset.adding p.flags.toList) p.source.toList = none) :
      Unusable p .invalidPattern

theorem PatternOptions.isFlag_iff (c : Char) : isFlag c ↔ c ∈ ['i', 'm', 's', 'x', 'u'] := by
  simp [isFlag, or_assoc]

theorem PatternOptions.not_isFlag_iff (c : Char) :
    (!isFlag c) = true ↔ c ∉ ['i', 'm', 's', 'x', 'u'] := by
  rw [← isFlag_iff, Bool.not_eq_true', Bool.not_eq_true]

namespace PatternLiteral

open PatternOptions (isFlag isFlag_iff not_isFlag_iff)

variable {p : PatternLiteral} {fault : PatternFault}

theorem Unusable.compile_eq (h : p.Unusable fault) : p.compile = .error fault := by
  cases h with
  | @flag before c after hflags hbefore hc =>
    have hfind : (p.flags.toList.find? fun a => !isFlag a) = some c := by
      rw [hflags, List.find?_eq_some_iff_append]
      refine ⟨(not_isFlag_iff c).mpr hc, before, after, rfl, fun a ha => ?_⟩
      rw [Bool.not_not]
      exact (isFlag_iff a).mpr (hbefore a ha)
    rw [compile, compileText_eq, hfind, Option.elim_some]
  | pattern hflags hread =>
    have hfind : (p.flags.toList.find? fun a => !isFlag a) = none := by
      rw [List.find?_eq_none]
      intro a ha hn
      exact (not_isFlag_iff a).mp hn (hflags a ha)
    rw [compile, compileText_eq, hfind, Option.elim_none, hread, Option.elim_none]

theorem unusable_of_compile (h : p.compile = .error fault) : p.Unusable fault := by
  rw [compile, compileText_eq] at h
  cases hfind : p.flags.toList.find? fun a => !isFlag a with
  | some c =>
    obtain ⟨hc, before, after, hflags, hbefore⟩ := List.find?_eq_some_iff_append.mp hfind
    rw [hfind, Option.elim_some] at h
    cases h
    refine .flag hflags (fun a ha => ?_) ((not_isFlag_iff c).mp hc)
    rw [← isFlag_iff, ← Bool.not_not (isFlag a)]
    exact hbefore a ha
  | none =>
    rw [hfind, Option.elim_none] at h
    rw [List.find?_eq_none] at hfind
    cases hread : Pattern.ofText? (PatternOptions.unset.adding p.flags.toList) p.source.toList with
    | some pattern =>
      rw [hread, Option.elim_some] at h
      cases h
    | none =>
      rw [hread, Option.elim_none] at h
      cases h
      refine .pattern (fun a ha => ?_) hread
      by_contra hn
      exact hfind a ha ((not_isFlag_iff a).mpr hn)

theorem compile_eq_error_iff : p.compile = .error fault ↔ p.Unusable fault :=
  ⟨unusable_of_compile, Unusable.compile_eq⟩

end PatternLiteral

namespace Filter

/-! ## What is attempted and what is kept -/

/-- The positions of the patterns that an evaluation attempts. -/
inductive Attempts (subject : Subject) (synonyms : Synonyms) : List Nat → Filter → Prop
  | text (h : subject = .text s) : Attempts subject synonyms [] (text (.pattern p))
  | comparison (hop : op = .eq ∨ op = .ne) (harray : ∀ items, subject.field field ≠ .array items)
      (hobject : ∀ fields, subject.field field ≠ .object fields) :
      Attempts subject synonyms [] (comparison field op (.pattern p))
  | term (ht : terms[i]? = some t)
      (hbefore : ∀ u ∈ terms.take i, u.accepts subject synonyms = op.neutral)
      (h : Attempts subject synonyms path t) :
      Attempts subject synonyms (i :: path) (joined op terms)

/-- The faults of the unusable patterns in a filter, by position. -/
def HasFault (f : Filter) (path : List Nat) (fault : PatternFault) : Prop :=
  ∃ p, f.Occurs p path ∧ p.Unusable fault

/-- Whether the filter keeps the outcomes of the patterns at the given positions and no others. -/
def Keeps (tried : List Nat → Prop) (f : Filter) : Prop :=
  ∀ p path, f.Occurs p path →
    (tried path → p.outcome = some p.compile) ∧ (¬ tried path → p.outcome = none)

/-- Whether the pattern at a position keeps an outcome. -/
def Compiled (f : Filter) (path : List Nat) : Prop := ∃ p, f.Occurs p path ∧ p.outcome ≠ none

variable {f t : Filter} {terms : List Filter} {op : Connective} {tried : List Nat → Prop}
variable {subject : Subject} {synonyms : Synonyms} {path rest : List Nat} {i : Nat}
variable {p : PatternLiteral} {fault : PatternFault}

theorem occurs_joined_iff :
    (joined op terms).Occurs p (i :: path) ↔ ∃ t, terms[i]? = some t ∧ t.Occurs p path := by
  constructor
  · rintro ⟨⟩
    exact ⟨_, ‹_›, ‹_›⟩
  · rintro ⟨t, ht, hp⟩
    exact .term ht hp

theorem attempts_joined_iff :
    (joined op terms).Attempts subject synonyms (i :: path) ↔
      ∃ t, terms[i]? = some t ∧
        (∀ u ∈ terms.take i, u.accepts subject synonyms = op.neutral) ∧
        t.Attempts subject synonyms path := by
  constructor
  · rintro ⟨⟩
    exact ⟨_, ‹_›, ‹_›, ‹_›⟩
  · rintro ⟨t, ht, hbefore, h⟩
    exact .term ht hbefore h

/-- The attempts in a term that is there. -/
theorem attempts_term_iff (ht : terms[i]? = some t) :
    (joined op terms).Attempts subject synonyms (i :: path) ↔
      (∀ u ∈ terms.take i, u.accepts subject synonyms = op.neutral) ∧
        t.Attempts subject synonyms path := by
  simp [attempts_joined_iff, ht]

theorem hasFault_term_iff (ht : terms[i]? = some t) :
    (joined op terms).HasFault (i :: path) fault ↔ t.HasFault path fault := by
  simp [HasFault, occurs_joined_iff, ht]

theorem keeps_joined_iff :
    (joined op terms).Keeps tried ↔
      ∀ (i : Nat) (t : Filter), terms[i]? = some t → t.Keeps fun path => tried (i :: path) := by
  constructor
  · intro h i t ht p path hp
    exact h p (i :: path) (.term ht hp)
  · intro h p path hp
    cases hp with
    | term ht hp => exact h _ _ ht p _ hp

theorem Keeps.congr {tried' : List Nat → Prop} (h : f.Keeps tried)
    (ht : ∀ path, tried path ↔ tried' path) : f.Keeps tried' := by
  obtain rfl : tried = tried' := funext fun path => propext (ht path)
  exact h

theorem Keeps.isFaithful (h : f.Keeps tried) : f.IsFaithful := by
  intro p path hp o ho
  obtain ⟨hsome, hnone⟩ := h p path hp
  by_cases ht : tried path
  · rw [hsome ht] at ho
    cases ho
    rfl
  · rw [hnone ht] at ho
    cases ho

/-- A pattern stands where one is attempted. -/
theorem Attempts.exists_occurs (h : f.Attempts subject synonyms path) : ∃ p, f.Occurs p path := by
  induction h with
  | text => exact ⟨_, .text .self⟩
  | comparison => exact ⟨_, .comparison .self⟩
  | term ht _ _ ih =>
    obtain ⟨p, hp⟩ := ih
    exact ⟨p, .term ht hp⟩

theorem Keeps.compiled_iff (h : f.Keeps tried) (htried : tried path → ∃ p, f.Occurs p path) :
    f.Compiled path ↔ tried path := by
  constructor
  · rintro ⟨p, hp, hsome⟩
    by_contra hn
    exact hsome ((h p path hp).2 hn)
  · intro ht
    obtain ⟨p, hp⟩ := htried ht
    refine ⟨p, hp, ?_⟩
    rw [(h p path hp).1 ht]
    exact Option.some_ne_none _

/-- What a check leaves and reports: the attempted patterns are kept besides those tried before, and
the faults are those of the unusable ones among them that are new. -/
structure Follows (f : Filter) (tried attempted : List Nat → Prop) (c : Checked Filter) : Prop where
  keeps : c.after.Keeps fun path => tried path ∨ attempted path
  faults : ListsInOrder
    (fun path fault => attempted path ∧ ¬ tried path ∧ f.HasFault path fault) c.faults

theorem Follows.congr {attempted attempted' : List Nat → Prop} {c : Checked Filter}
    (h : Follows f tried attempted c) (ha : ∀ path, attempted path ↔ attempted' path) :
    Follows f tried attempted' c := by
  obtain rfl : attempted = attempted' := funext fun path => propext (ha path)
  exact h

theorem follows_nothing {attempted : List Nat → Prop} (hk : f.Keeps tried)
    (hn : ∀ path, ¬ attempted path) (outcome : Bool) :
    Follows f tried attempted ⟨outcome, f, []⟩ := by
  constructor
  · simpa [hn] using hk
  · exact listsInOrder_nil fun path fault h => hn path h.1

theorem attempt_of_some {o : Except PatternFault Pattern} (h : p.outcome = some o) :
    p.attempt = (p, none) := by
  simp [PatternLiteral.attempt, h]

theorem attempt_of_none (h : p.outcome = none) :
    p.attempt.1.outcome = some p.attempt.1.compile ∧
      ∀ fault, p.attempt.2 = some fault ↔ p.Unusable fault := by
  constructor
  · simp [PatternLiteral.attempt, h]
    rfl
  · intro fault
    rw [← PatternLiteral.compile_eq_error_iff]
    simp only [PatternLiteral.attempt, h]
    cases p.compile <;> simp

/-- The fault of an attempt is new unless there was one before. -/
theorem faults_attempt (hsome : tried [] → p.outcome = some p.compile)
    (hnone : ¬ tried [] → p.outcome = none) :
    ListsInOrder (fun path fault => path = [] ∧ ¬ tried path ∧ p.Unusable fault)
      p.attempt.2.toList := by
  by_cases ht : tried []
  · rw [attempt_of_some (hsome ht)]
    apply listsInOrder_nil
    rintro path fault ⟨rfl, hn, -⟩
    exact hn ht
  · have hnew := (attempt_of_none (hnone ht)).2
    cases ha : p.attempt.2 with
    | none =>
      apply listsInOrder_nil
      rintro path fault ⟨-, -, hfault⟩
      rw [← hnew, ha] at hfault
      cases hfault
    | some fault =>
      refine (listsInOrder_singleton [] fault).congr fun path fault' => ?_
      rw [← hnew, ha, Option.some_inj, eq_comm (a := fault)]
      constructor
      · rintro ⟨rfl, rfl⟩
        exact ⟨rfl, ht, rfl⟩
      · rintro ⟨rfl, -, rfl⟩
        exact ⟨rfl, rfl⟩

theorem literal_occurs_pattern_iff {q : PatternLiteral} :
    (Literal.pattern q).Occurs p path ↔ path = [] ∧ p = q := by
  constructor
  · rintro ⟨⟩
    exact ⟨rfl, rfl⟩
  · rintro ⟨rfl, rfl⟩
    exact .self

/-- The one pattern of a node without terms is attempted. -/
theorem follows_attempt {node : Literal → Filter}
    (hnode : ∀ v p path, (node v).Occurs p path ↔ v.Occurs p path)
    (hk : (node (.pattern p)).Keeps tried) (outcome : Bool) :
    Follows (node (.pattern p)) tried (fun path => path = [])
      ⟨outcome, node (.pattern p.attempt.1), p.attempt.2.toList⟩ := by
  obtain ⟨hsome, hnone⟩ := hk p [] ((hnode _ p []).mpr .self)
  constructor
  · intro q path hq
    rw [hnode, literal_occurs_pattern_iff] at hq
    obtain ⟨rfl, rfl⟩ := hq
    refine ⟨fun _ => ?_, fun hn => absurd (Or.inr rfl) hn⟩
    by_cases ht : tried []
    · rw [attempt_of_some (hsome ht), hsome ht]
    · exact (attempt_of_none (hnone ht)).1
  · refine (faults_attempt hsome hnone).congr fun path fault => ?_
    simp only [HasFault, hnode, literal_occurs_pattern_iff]
    constructor
    · rintro ⟨rfl, hn, hfault⟩
      exact ⟨rfl, hn, p, ⟨rfl, rfl⟩, hfault⟩
    · rintro ⟨rfl, hn, _, ⟨-, rfl⟩, hfault⟩
      exact ⟨rfl, hn, hfault⟩

/-! ## Joined terms -/

/-- The terms that are reached are checked, and the others stay as they are. -/
theorem after_checkTerms_getElem? (terms : List Filter) (i : Nat) :
    (checkTerms subject synonyms op terms).after[i]? =
      terms[i]?.map fun t =>
        if ∀ u ∈ terms.take i, (u.check subject synonyms).outcome = op.neutral then
          (t.check subject synonyms).after
        else t := by
  induction terms generalizing i with
  | nil => simp [checkTerms_nil]
  | cons t terms ih =>
    rw [checkTerms_cons]
    cases i with
    | zero => split <;> simp
    | succ i =>
      split
      · next h => simp [ih, h]
      · next h => simp [h]

/-- The position of a term when one more stands before it. -/
def laterTerm : List Nat → List Nat
  | [] => []
  | i :: rest => (i + 1) :: rest

theorem laterTerm_lt (path path' : List Nat) (h : path < path') :
    laterTerm path < laterTerm path' := by
  cases path' with
  | nil => cases h
  | cons j rest' =>
    cases path with
    | nil => exact List.nil_lt_cons _ _
    | cons i rest =>
      rcases List.cons_lt_cons_iff.mp h with hlt | ⟨rfl, hlt⟩
      · exact List.cons_lt_cons_iff.mpr (.inl (Nat.succ_lt_succ hlt))
      · exact List.cons_lt_cons_iff.mpr (.inr ⟨rfl, hlt⟩)

/-- What `P` has in the terms that a check reaches. -/
def AtReached (subject : Subject) (synonyms : Synonyms) (op : Connective) (terms : List Filter)
    (P : Nat → Filter → List Nat → PatternFault → Prop) (path : List Nat) (fault : PatternFault) :
    Prop :=
  ∃ i rest t, path = i :: rest ∧ terms[i]? = some t ∧
    (∀ u ∈ terms.take i, (u.check subject synonyms).outcome = op.neutral) ∧ P i t rest fault

theorem atReached_cons {P : Nat → Filter → List Nat → PatternFault → Prop} :
    AtReached subject synonyms op (t :: terms) P path fault ↔
      (∃ rest, path = 0 :: rest ∧ P 0 t rest fault) ∨
        (t.check subject synonyms).outcome = op.neutral ∧
          ∃ old, path = laterTerm old ∧
            AtReached subject synonyms op terms (fun i => P (i + 1)) old fault := by
  constructor
  · rintro ⟨i, rest, u, rfl, hu, hbefore, hp⟩
    cases i with
    | zero =>
      cases hu
      exact .inl ⟨rest, rfl, hp⟩
    | succ i =>
      rw [List.take_succ_cons, List.forall_mem_cons] at hbefore
      exact .inr ⟨hbefore.1, i :: rest, rfl, i, rest, u, rfl, hu, hbefore.2, hp⟩
  · rintro (⟨rest, rfl, hp⟩ | ⟨ht, _, rfl, i, rest, u, rfl, hu, hbefore, hp⟩)
    · exact ⟨0, rest, t, rfl, rfl, by simp, hp⟩
    · refine ⟨i + 1, rest, u, rfl, hu, ?_, hp⟩
      rw [List.take_succ_cons, List.forall_mem_cons]
      exact ⟨ht, hbefore⟩

/-- The faults of the terms that are reached, in order. -/
theorem faults_checkTerms {P : Nat → Filter → List Nat → PatternFault → Prop} (op : Connective)
    (h : ∀ (i : Nat) (t : Filter), terms[i]? = some t →
      ListsInOrder (P i t) (t.check subject synonyms).faults) :
    ListsInOrder (AtReached subject synonyms op terms P)
      (checkTerms subject synonyms op terms).faults := by
  induction terms generalizing P with
  | nil =>
    rw [checkTerms_nil]
    apply listsInOrder_nil
    rintro path fault ⟨i, rest, t, -, ht, -⟩
    cases ht
  | cons t terms ih =>
    have hfirst := (h 0 t rfl).image (0 :: ·) fun _ _ => List.cons_lt_cons_self.mpr
    have hrest := (ih fun i u hu => h (i + 1) u hu).image laterTerm laterTerm_lt
    rw [checkTerms_cons]
    split
    · next hneutral =>
      refine (hfirst.append hrest ?_).congr fun path fault => ?_
      · rintro _ a _ b ⟨rest, rfl, -⟩ ⟨_, rfl, i, rest', u, rfl, -⟩
        exact List.cons_lt_cons_iff.mpr (.inl (Nat.succ_pos i))
      · rw [atReached_cons, and_iff_right hneutral]
    · next hdecides =>
      refine hfirst.congr fun path fault => ?_
      rw [atReached_cons, or_iff_left (fun hn => hdecides hn.1)]

/-- The terms before the one at a position answer what evaluating them does. -/
theorem reached_iff (subject : Subject) (synonyms : Synonyms)
    (hf : (joined op terms).IsFaithful) (i : Nat) :
    (∀ u ∈ terms.take i, (u.check subject synonyms).outcome = op.neutral) ↔
      ∀ u ∈ terms.take i, u.accepts subject synonyms = op.neutral := by
  refine forall₂_congr fun u hu => ?_
  rw [check_outcome subject synonyms (hf.term op (List.mem_of_mem_take hu))]

theorem keeps_joined
    (h : ∀ t ∈ terms, ∀ tried : List Nat → Prop, t.Keeps tried →
      Follows t tried (fun path => t.Attempts subject synonyms path) (t.check subject synonyms))
    (hk : (joined op terms).Keeps tried) :
    ((joined op terms).check subject synonyms).after.Keeps fun path =>
      tried path ∨ (joined op terms).Attempts subject synonyms path := by
  rw [check_joined, Checked.after_map, keeps_joined_iff]
  intro i t' ht'
  rw [after_checkTerms_getElem?, Option.map_eq_some_iff] at ht'
  obtain ⟨t, ht, rfl⟩ := ht'
  have hterm := keeps_joined_iff.mp hk i t ht
  have hreached := reached_iff subject synonyms hk.isFaithful i
  split
  · next hr =>
    refine (h t (List.mem_of_getElem? ht) _ hterm).keeps.congr fun path => ?_
    rw [attempts_term_iff ht, and_iff_right (hreached.mp hr)]
  · next hr =>
    refine hterm.congr fun path => ?_
    rw [attempts_term_iff ht, or_iff_left fun ha => hr (hreached.mpr ha.1)]

theorem faults_joined
    (h : ∀ t ∈ terms, ∀ tried : List Nat → Prop, t.Keeps tried →
      Follows t tried (fun path => t.Attempts subject synonyms path) (t.check subject synonyms))
    (hk : (joined op terms).Keeps tried) :
    ListsInOrder
      (fun path fault => (joined op terms).Attempts subject synonyms path ∧ ¬ tried path ∧
        (joined op terms).HasFault path fault)
      ((joined op terms).check subject synonyms).faults := by
  have hreached := reached_iff subject synonyms hk.isFaithful
  have hfaults := faults_checkTerms op fun i t ht =>
    (h t (List.mem_of_getElem? ht) _ (keeps_joined_iff.mp hk i t ht)).faults
  rw [check_joined, Checked.faults_map]
  refine hfaults.congr fun path fault => ⟨?_, ?_⟩
  · rintro ⟨i, rest, t, rfl, ht, hr, ha, hn, hf⟩
    exact ⟨(attempts_term_iff ht).mpr ⟨(hreached i).mp hr, ha⟩, hn, (hasFault_term_iff ht).mpr hf⟩
  · rintro ⟨ha, hn, hf⟩
    cases ha with
    | term ht hr ha =>
      exact ⟨_, _, _, rfl, ht, (hreached _).mpr hr, ha, hn, (hasFault_term_iff ht).mp hf⟩

/-! ## Single nodes -/

theorem scalarText?_eq_none_iff (v : Json) :
    v.scalarText? = none ↔ (∃ items, v = .array items) ∨ ∃ fields, v = .object fields := by
  cases v with
  | bool b => cases b <;> simp [Json.scalarText?]
  | number n => cases n <;> simp [Json.scalarText?]
  | _ => simp [Json.scalarText?]

theorem follows_text {v : Literal} (hk : (text v).Keeps tried) :
    Follows (text v) tried (fun path => (text v).Attempts subject synonyms path)
      ((text v).check subject synonyms) := by
  have hnode : ∀ u p path, (text u).Occurs p path ↔ u.Occurs p path := by
    intro u p path
    refine ⟨?_, .text⟩
    rintro ⟨⟩
    assumption
  cases subject with
  | record r =>
    refine follows_nothing hk ?_ _
    rintro _ ⟨⟩
    contradiction
  | text s =>
    cases v with
    | pattern p =>
      refine (follows_attempt hnode hk _).congr fun path => ⟨?_, ?_⟩
      · rintro rfl
        exact .text rfl
      · rintro ⟨⟩
        rfl
    | _ =>
      refine follows_nothing hk ?_ _
      rintro _ ⟨⟩

theorem attempts_comparison_iff {field : String} {o : Operator} {v : Literal} :
    (comparison field o v).Attempts subject synonyms path ↔
      path = [] ∧ (o = .eq ∨ o = .ne) ∧ (∃ p, v = .pattern p) ∧
        (subject.field field).scalarText? ≠ none := by
  rw [ne_eq, scalarText?_eq_none_iff, not_or, not_exists, not_exists]
  constructor
  · intro ha
    cases ha with
    | comparison ho harray hobject => exact ⟨rfl, ho, ⟨_, rfl⟩, harray, hobject⟩
  · rintro ⟨rfl, ho, ⟨p, rfl⟩, harray, hobject⟩
    exact .comparison ho harray hobject

theorem follows_comparison {field : String} {o : Operator} {v : Literal}
    (hk : (comparison field o v).Keeps tried) :
    Follows (comparison field o v) tried
      (fun path => (comparison field o v).Attempts subject synonyms path)
      ((comparison field o v).check subject synonyms) := by
  have hnode : ∀ u p path, (comparison field o u).Occurs p path ↔ u.Occurs p path := by
    intro u p path
    refine ⟨?_, .comparison⟩
    rintro ⟨⟩
    assumption
  rw [check]
  unfold Operator.check
  cases hp : o.pattern? v with
  | none =>
    refine follows_nothing hk (fun path ha => ?_) _
    obtain ⟨-, ho, ⟨p, rfl⟩, -⟩ := attempts_comparison_iff.mp ha
    rcases ho with rfl | rfl <;> cases hp
  | some e =>
    obtain ⟨p, negated⟩ := e
    obtain ⟨rfl, ho⟩ := Literal.pattern?_eq_some_iff.mp hp
    cases htext : (subject.field field).scalarText? with
    | none =>
      refine follows_nothing hk (fun path ha => ?_) _
      exact (attempts_comparison_iff.mp ha).2.2.2 htext
    | some s =>
      refine (follows_attempt hnode hk _).congr fun path => ?_
      simp [attempts_comparison_iff, htext, ho.imp And.left And.left]

/-- A check follows the evaluation: from the patterns tried before and those attempted now follow
what is kept and what is reported. -/
theorem check_follows (hk : f.Keeps tried) (subject : Subject) (synonyms : Synonyms) :
    Follows f tried (fun path => f.Attempts subject synonyms path) (f.check subject synonyms) := by
  induction f using induct_terms generalizing tried with
  | joined op terms ih =>
    have hterms := fun t ht (tried : List Nat → Prop) (hk : t.Keeps tried) => ih t ht hk
    exact ⟨keeps_joined hterms hk, faults_joined hterms hk⟩
  | text v => exact follows_text hk
  | comparison field o v => exact follows_comparison hk

/-! ## Forgetting -/

theorem literal_occurs_forget_iff {v : Literal} :
    v.forget.Occurs p path ↔ ∃ q, v.Occurs q path ∧ p = q.forget := by
  induction v using Literal.induct_items generalizing path with
  | list items ih =>
    rw [Literal.forget, Literal.forgetItems_eq_map]
    constructor
    · rintro (_ | @⟨i, _, u, rest, hu, hp⟩)
      rw [List.getElem?_map, Option.map_eq_some_iff] at hu
      obtain ⟨w, hw, rfl⟩ := hu
      obtain ⟨q, hq, rfl⟩ := (ih w (List.mem_of_getElem? hw)).mp hp
      exact ⟨q, .item hw hq, rfl⟩
    · rintro ⟨q, _ | @⟨i, _, w, rest, hw, hq⟩, rfl⟩
      refine .item (v := w.forget) (by rw [List.getElem?_map, hw]; rfl) ?_
      exact (ih w (List.mem_of_getElem? hw)).mpr ⟨q, hq, rfl⟩
  | pattern q =>
    constructor
    · rintro ⟨⟩
      exact ⟨q, .self, rfl⟩
    · rintro ⟨_, ⟨⟩, rfl⟩
      exact .self
  | _ =>
    constructor
    · rintro ⟨⟩
    · rintro ⟨_, ⟨⟩, -⟩

theorem occurs_forget_iff : f.forget.Occurs p path ↔ ∃ q, f.Occurs q path ∧ p = q.forget := by
  induction f using induct_terms generalizing path with
  | joined op terms ih =>
    rw [forget, forgetTerms_eq_map]
    constructor
    · rintro (_ | _ | @⟨i, _, u, rest, _, hu, hp⟩)
      rw [List.getElem?_map, Option.map_eq_some_iff] at hu
      obtain ⟨w, hw, rfl⟩ := hu
      obtain ⟨q, hq, rfl⟩ := (ih w (List.mem_of_getElem? hw)).mp hp
      exact ⟨q, .term hw hq, rfl⟩
    · rintro ⟨q, _ | _ | @⟨i, _, w, rest, _, hw, hq⟩, rfl⟩
      refine .term (t := w.forget) (by rw [List.getElem?_map, hw]; rfl) ?_
      exact (ih w (List.mem_of_getElem? hw)).mpr ⟨q, hq, rfl⟩
  | text v =>
    constructor
    · rintro (h | _ | _)
      obtain ⟨q, hq, rfl⟩ := literal_occurs_forget_iff.mp h
      exact ⟨q, .text hq, rfl⟩
    · rintro ⟨q, h | _ | _, rfl⟩
      exact .text (literal_occurs_forget_iff.mpr ⟨q, h, rfl⟩)
  | comparison field o v =>
    constructor
    · rintro (_ | h | _)
      obtain ⟨q, hq, rfl⟩ := literal_occurs_forget_iff.mp h
      exact ⟨q, .comparison hq, rfl⟩
    · rintro ⟨q, _ | h | _, rfl⟩
      exact .comparison (literal_occurs_forget_iff.mpr ⟨q, h, rfl⟩)

theorem attempts_forget_iff :
    f.forget.Attempts subject synonyms path ↔ f.Attempts subject synonyms path := by
  induction f using induct_terms generalizing path with
  | joined op terms ih =>
    cases path with
    | nil => constructor <;> rintro ⟨⟩
    | cons i rest =>
      rw [forget, forgetTerms_eq_map]
      cases ht : terms[i]? with
      | none => simp [attempts_joined_iff, ht]
      | some t =>
        have ht' : (terms.map forget)[i]? = some t.forget := by
          rw [List.getElem?_map, ht]
          rfl
        rw [attempts_term_iff ht, attempts_term_iff ht', ih t (List.mem_of_getElem? ht),
          ← List.map_take, List.forall_mem_map]
        simp only [accepts_forget]
  | text v =>
    cases v with
    | pattern p =>
      constructor <;> intro ha <;> cases ha with
      | text h => exact .text h
    | _ => constructor <;> rintro ⟨⟩
  | comparison field o v =>
    cases v with
    | pattern p =>
      constructor <;> intro ha <;> cases ha with
      | comparison ho ha hj => exact .comparison ho ha hj
    | _ => constructor <;> rintro ⟨⟩

theorem unusable_forget_iff : p.forget.Unusable fault ↔ p.Unusable fault := by
  rw [← PatternLiteral.compile_eq_error_iff, ← PatternLiteral.compile_eq_error_iff]
  rfl

theorem hasFault_forget_iff : f.forget.HasFault path fault ↔ f.HasFault path fault := by
  constructor
  · rintro ⟨p, hp, hfault⟩
    obtain ⟨q, hq, rfl⟩ := occurs_forget_iff.mp hp
    exact ⟨q, hq, unusable_forget_iff.mp hfault⟩
  · rintro ⟨q, hq, hfault⟩
    exact ⟨q.forget, occurs_forget_iff.mpr ⟨q, hq, rfl⟩, unusable_forget_iff.mpr hfault⟩

/-- A filter that equals itself without kept outcomes keeps none. -/
theorem keeps_nothing (h : f.forget = f) : f.Keeps fun _ => False := by
  intro p path hp
  rw [← h] at hp
  obtain ⟨q, -, rfl⟩ := occurs_forget_iff.mp hp
  exact ⟨False.elim, fun _ => rfl⟩

end Filter

end RecordFilter
