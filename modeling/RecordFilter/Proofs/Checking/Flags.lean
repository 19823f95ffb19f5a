import RecordFilter.Proofs.Checking.Attempts

/-!
# The flags of patterns

Compiling goes through the flags of a literal one by one: each switches its option on, and the first
character that is no flag ends it. Switching on commutes and does nothing twice, so what counts is
which flags there are, and `u` counts for nothing since its option is on from the start. A literal
with a character that is no flag, wherever it stands, matches nothing.
-/

namespace RecordFilter

namespace PatternOptions

variable {o : PatternOptions} {c : Char} {flags others : List Char}

/-- Only which flags there are counts, and `u` does not. -/
theorem adding_congr (ho : o.unicode) (h : ∀ c, c ≠ 'u' → (c ∈ flags ↔ c ∈ others)) :
    o.adding flags = o.adding others := by
  have hcontains : ∀ c, c ≠ 'u' → flags.contains c = others.contains c := by
    intro c hc
    rw [List.contains_eq_mem, List.contains_eq_mem, decide_eq_decide]
    exact h c hc
  rw [adding, adding, hcontains 'i' (by decide), hcontains 'm' (by decide),
    hcontains 's' (by decide), hcontains 'x' (by decide), ho, Bool.true_or, Bool.true_or]

theorem switchAll_of_forall (h : ∀ c ∈ flags, isFlag c) :
    o.switchAll flags = .ok (o.adding flags) := by
  have hfind : (flags.find? fun c => !isFlag c) = none := by
    rw [List.find?_eq_none]
    intro c hc
    rw [h c hc]
    decide
  rw [switchAll_eq, hfind, Option.elim_none]

/-- A character that is no flag ends it wherever it stands. -/
theorem exists_switchAll_eq_error (hc : c ∈ flags)
    (hflag : ¬ isFlag c) : ∃ fault, o.switchAll flags = .error fault := by
  have hfind : (flags.find? fun c => !isFlag c).isSome := by
    rw [List.find?_isSome]
    exact ⟨c, hc, by simpa using hflag⟩
  obtain ⟨a, ha⟩ := Option.isSome_iff_exists.mp hfind
  exact ⟨.unsupportedFlag a, by rw [switchAll_eq, ha, Option.elim_some]⟩

end PatternOptions

namespace PatternLiteral

variable {p q : PatternLiteral} {c : Char}

theorem found_compile_of_unsupported (hc : c ∈ p.flags.toList) (hflag : ¬ PatternOptions.isFlag c)
    (s : String) : found p.compile s = false := by
  obtain ⟨fault, hfault⟩ :=
    PatternOptions.exists_switchAll_eq_error (o := PatternOptions.unset) hc hflag
  rw [compile, compileText, hfault]
  rfl

/-- Literals with one source and one set of flags occur in the same texts. Which fault they have may
differ: it is that of the first character that is no flag. -/
theorem found_compile_congr (hsource : p.source = q.source)
    (hflags : ∀ c, c ≠ 'u' → (c ∈ p.flags.toList ↔ c ∈ q.flags.toList)) (s : String) :
    found p.compile s = found q.compile s := by
  by_cases hp : ∀ c ∈ p.flags.toList, PatternOptions.isFlag c
  · have hq : ∀ c ∈ q.flags.toList, PatternOptions.isFlag c := by
      intro c hc
      by_cases hu : c = 'u'
      · rw [hu]
        rfl
      · exact hp c ((hflags c hu).mpr hc)
    rw [compile, compile, compileText, compileText, PatternOptions.switchAll_of_forall hp,
      PatternOptions.switchAll_of_forall hq, PatternOptions.adding_congr rfl hflags, hsource]
  · obtain ⟨c, hc, hflag⟩ : ∃ c ∈ p.flags.toList, ¬ PatternOptions.isFlag c := by
      simpa using hp
    have hu : c ≠ 'u' := by
      rintro rfl
      exact hflag rfl
    rw [found_compile_of_unsupported hc hflag,
      found_compile_of_unsupported ((hflags c hu).mp hc) hflag]

theorem check_outcome_eq_found (h : p.IsFaithful) (s : String) :
    (p.check s).outcome = found p.compile s := by
  rw [check, h.outcomeOrCompile_eq]

end PatternLiteral

/-- A pattern that matches nothing leaves an outcome only to the negation. -/
theorem Operator.check_outcome_of_never {op : Operator} {v : Literal} {p : PatternLiteral}
    {negated : Bool} (hp : op.pattern? v = some (p, negated))
    (h : ∀ s, (p.check s).outcome = false) (actual : Json) :
    (op.check actual v).outcome = negated := by
  simp only [Operator.check, hp]
  cases actual.scalarText? with
  | none => rfl
  | some s => simp [h s]

namespace Filter

/-- Flags act as a set, one by one as they are gone through. With a character that is none of them
a literal matches no text, so equality with it never holds and its negation always does. -/
theorem check_flags :
    (∀ p : PatternLiteral,
        p.compile = (PatternOptions.unset.switchAll p.flags.toList).bind fun o =>
          (Pattern.ofText? o p.source.toList).elim (.error .invalidPattern) .ok) ∧
      (∀ (o : PatternOptions) (flags : List Char),
        o.switchAll flags =
          (flags.find? fun c => !PatternOptions.isFlag c).elim (.ok (o.adding flags))
            fun c => .error (.unsupportedFlag c)) ∧
      (∀ p q : PatternLiteral, p.IsFaithful → q.IsFaithful → p.source = q.source →
        (∀ c, c ≠ 'u' → (c ∈ p.flags.toList ↔ c ∈ q.flags.toList)) →
        ∀ s, (p.check s).outcome = (q.check s).outcome) ∧
      ∀ p : PatternLiteral, p.IsFaithful →
        (∃ c ∈ p.flags.toList, c ∉ ['i', 'm', 's', 'x', 'u']) →
        (∀ s, (p.check s).outcome = false) ∧
          ∀ subject synonyms,
            ((text (.pattern p)).check subject synonyms).outcome = false ∧
              ∀ field,
                ((comparison field .eq (.pattern p)).check subject synonyms).outcome = false ∧
                  ((comparison field .ne (.pattern p)).check subject synonyms).outcome = true := by
  refine ⟨fun p => rfl, PatternOptions.switchAll_eq,
    fun p q hp hq hsource hflags s => ?_, ?_⟩
  · rw [PatternLiteral.check_outcome_eq_found hp, PatternLiteral.check_outcome_eq_found hq]
    exact PatternLiteral.found_compile_congr hsource hflags s
  · rintro p hp ⟨c, hc, hflag⟩
    rw [← PatternOptions.isFlag_iff] at hflag
    have hnever : ∀ s, (p.check s).outcome = false := by
      intro s
      rw [PatternLiteral.check_outcome_eq_found hp]
      exact PatternLiteral.found_compile_of_unsupported hc hflag s
    refine ⟨hnever, fun subject synonyms => ⟨?_, fun field => ⟨?_, ?_⟩⟩⟩
    · cases subject with
      | text s => exact hnever s
      | record r => rfl
    · exact Operator.check_outcome_of_never rfl hnever _
    · exact Operator.check_outcome_of_never rfl hnever _

/-- Flags in another order, repeated and with `u` change nothing; a `g` between flags makes the
literal match nothing. -/
theorem check_flags_reordered :
    (∀ s, (PatternLiteral.check { source := "a.b", flags := "is" } s).outcome =
        (PatternLiteral.check { source := "a.b", flags := "sius" } s).outcome) ∧
      ∀ field r synonyms,
        ((comparison field .ne (.pattern { source := "a.b", flags := "igs" })).check
          (.record r) synonyms).outcome = true := by
  have hfresh : ∀ source flags : String,
      PatternLiteral.IsFaithful { source := source, flags := flags } := by
    intro source flags o ho
    cases ho
  have hset : ∀ c, c ≠ 'u' → (c ∈ "is".toList ↔ c ∈ "sius".toList) := by grind
  refine ⟨check_flags.2.2.1 _ _ (hfresh _ _) (hfresh _ _) rfl hset, fun field r synonyms => ?_⟩
  have hnever := (check_flags.2.2.2 _ (hfresh "a.b" "igs") ⟨'g', by simp, by decide⟩).2
  exact ((hnever (.record r) synonyms).2 field).2

end Filter

end RecordFilter
