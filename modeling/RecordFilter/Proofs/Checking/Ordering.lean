import RecordFilter.Proofs.Checking.Equality
import RecordFilter.Proofs.Json.FiniteNumbers

/-!
# Order comparisons

Numbers have one order and strings have another. A value and a literal that are both numbers or both
strings stand in exactly one of three relations, equality is one of these, and all comparisons but
those with lists follow from which one it is. A value and a literal of different kinds are in no
order, and neither is anything with a list, a boolean, null or a pattern.
-/

namespace RecordFilter

/-- The operators that ask for the order of two values. -/
def Operator.orderings : List Operator := [.lt, .gt, .le, .ge]

/-- The answers to the comparisons of a value with a literal agree on one relation between them:
before it, equal to it or after it. -/
structure Operator.FollowOrder (answer : Operator → Bool) : Prop where
  one : [answer .lt, answer .eq, answer .gt].count true = 1
  le : answer .le = true ↔ answer .lt = true ∨ answer .eq = true
  ge : answer .ge = true ↔ answer .gt = true ∨ answer .eq = true

namespace Binary64

variable {x y z : Binary64} {o : Ordering}

theorem compare?_eq_some_iff :
    x.compare? y = some o ↔ x.isNaN = false ∧ y.isNaN = false ∧ compare x.key y.key = o := by
  unfold compare?
  cases x.isNaN <;> cases y.isNaN <;> simp

theorem compare?_of_isLE_of_lt (h : x.compare? y = some o) (ho : o.isLE)
    (h' : y.compare? z = some .lt) : x.compare? z = some .lt := by
  obtain ⟨hx, -, rfl⟩ := compare?_eq_some_iff.mp h
  obtain ⟨-, hz, hlt⟩ := compare?_eq_some_iff.mp h'
  exact compare?_eq_some_iff.mpr ⟨hx, hz, Std.TransCmp.lt_of_isLE_of_lt ho hlt⟩

theorem compare?_of_lt_of_isGE (h' : y.compare? z = some .lt) (h : x.compare? z = some o)
    (ho : o.isGE) : x.compare? y = some .gt := by
  obtain ⟨hx, -, rfl⟩ := compare?_eq_some_iff.mp h
  obtain ⟨hy, -, hlt⟩ := compare?_eq_some_iff.mp h'
  have hgt := Std.TransCmp.gt_of_isGE_of_gt ho (Std.OrientedCmp.gt_of_lt hlt)
  exact compare?_eq_some_iff.mpr ⟨hx, hy, hgt⟩

end Binary64

namespace Literal

/-- The literals that values can be ordered by. -/
def IsOrdered : Literal → Prop
  | string _ => True
  | number x => x.isNaN = false
  | _ => False

/-- A literal and a value that are both strings or both numbers. -/
inductive SameKind : Literal → Json → Prop
  | string : SameKind (string s) (.string t)
  | number : SameKind (number x) (.number n)

/-- The literals that no value is ordered by. -/
inductive HasNoOrder : Literal → Prop
  | list : HasNoOrder (list items)
  | bool : HasNoOrder (bool b)
  | null : HasNoOrder null
  | pattern : HasNoOrder (pattern p)

/-- The order of literals of one kind. -/
inductive Precedes : Literal → Literal → Prop
  | string (h : compare s t = .lt) : Precedes (string s) (string t)
  | number (h : x.compare? y = some .lt) : Precedes (number x) (number y)

variable {u v : Literal} {a : Json} {op : Operator}

/-- A value and a literal of one kind are ordered, and equal if and only if neither is before the
other. -/
theorem exists_order?_eq (hv : v.IsOrdered) (ha : a.HasFiniteNumbers) (h : v.SameKind a) :
    ∃ o, v.order? a = some o ∧ v.equals a = (o == .eq) := by
  cases h with
  | @string s t =>
    refine ⟨compare t s, rfl, ?_⟩
    rw [equals, Bool.eq_iff_iff, beq_iff_eq, beq_iff_eq, compare_eq_iff_eq]
    exact eq_comm
  | @number x n =>
    have hx : x.isNaN = false := hv
    have hn : n.toBinary64.isNaN = false := Binary64.isNaN_of_isFinite (ha n .self)
    refine ⟨compare n.toBinary64.key x.key, Binary64.compare?_eq_some_iff.mpr ⟨hn, hx, rfl⟩, ?_⟩
    rw [equals, Binary64.sameValue, hx, hn, Bool.eq_iff_iff]
    simp

theorem order?_eq_none (h : ¬ v.SameKind a) : v.order? a = none := by
  cases a with
  | number n =>
    cases v with
    | number x => exact absurd .number h
    | _ => rfl
  | string t =>
    cases v with
    | string s => exact absurd .string h
    | _ => rfl
  | _ => cases v <;> rfl

/-- What is not after a literal is before each later one. -/
theorem Precedes.order?_of_isLE {o : Ordering} (h : u.Precedes v) (ha : u.order? a = some o)
    (ho : o.isLE) : v.order? a = some .lt := by
  cases h with
  | string hst =>
    cases a with
    | string r =>
      obtain rfl := Option.some.inj ha
      exact congrArg some (Std.TransCmp.lt_of_isLE_of_lt ho hst)
    | _ => cases ha
  | number hxy =>
    cases a with
    | number n => exact Binary64.compare?_of_isLE_of_lt ha ho hxy
    | _ => cases ha

/-- What is not before a literal is after each earlier one. -/
theorem Precedes.order?_of_isGE {o : Ordering} (h : u.Precedes v) (ha : v.order? a = some o)
    (ho : o.isGE) : u.order? a = some .gt := by
  cases h with
  | string hst =>
    cases a with
    | string r =>
      obtain rfl := Option.some.inj ha
      exact congrArg some (Std.TransCmp.gt_of_isGE_of_gt ho (Std.OrientedCmp.gt_of_lt hst))
    | _ => cases ha
  | number hxy =>
    cases a with
    | number n => exact Binary64.compare?_of_lt_of_isGE hxy ha ho
    | _ => cases ha

/-! ## Answers -/

theorem check_ordering_outcome (hop : op ∈ Operator.orderings) (a : Json) (v : Literal) :
    (op.check a v).outcome = op.compare a v := by
  simp only [Operator.orderings, List.mem_cons, List.not_mem_nil, or_false] at hop
  rcases hop with rfl | rfl | rfl | rfl <;> rfl

theorem IsOrdered.isPattern_eq (hv : v.IsOrdered) : v.isPattern = false := by
  cases v with
  | pattern p => cases hv
  | _ => rfl

theorem followOrder_of_sameKind (hv : v.IsOrdered) (ha : a.HasFiniteNumbers) (h : v.SameKind a) :
    Operator.FollowOrder fun op => (op.check a v).outcome := by
  obtain ⟨o, horder, hequals⟩ := exists_order?_eq hv ha h
  have heq := check_eq_outcome_of_isPattern_eq_false hv.isPattern_eq a
  rw [hequals] at heq
  have hlt : (Operator.lt.check a v).outcome = o.isLT := congrArg (Option.any Ordering.isLT) horder
  have hgt : (Operator.gt.check a v).outcome = o.isGT := congrArg (Option.any Ordering.isGT) horder
  have hle : (Operator.le.check a v).outcome = o.isLE := congrArg (Option.any Ordering.isLE) horder
  have hge : (Operator.ge.check a v).outcome = o.isGE := congrArg (Option.any Ordering.isGE) horder
  constructor
  · rw [hlt, heq, hgt]
    cases o <;> rfl
  · rw [hle, hlt, heq]
    cases o <;> decide
  · rw [hge, hgt, heq]
    cases o <;> decide

theorem check_ordering_of_not_sameKind (h : ¬ v.SameKind a) (hop : op ∈ Operator.orderings) :
    (op.check a v).outcome = false := by
  have horder := order?_eq_none h
  rw [check_ordering_outcome hop]
  simp only [Operator.orderings, List.mem_cons, List.not_mem_nil, or_false] at hop
  rcases hop with rfl | rfl | rfl | rfl <;> rw [Operator.compare, horder] <;> rfl

theorem Precedes.check_lt {p : Ordering → Bool} (h : u.Precedes v) (hp : ∀ o, p o → o.isLE)
    (ha : (u.order? a).any p = true) : (Operator.lt.check a v).outcome = true := by
  obtain ⟨o, horder, ho⟩ := (Option.any_eq_true _ _).mp ha
  exact congrArg (Option.any Ordering.isLT) (h.order?_of_isLE horder (hp o ho))

theorem Precedes.check_gt {p : Ordering → Bool} (h : u.Precedes v) (hp : ∀ o, p o → o.isGE)
    (ha : (v.order? a).any p = true) : (Operator.gt.check a u).outcome = true := by
  obtain ⟨o, horder, ho⟩ := (Option.any_eq_true _ _).mp ha
  exact congrArg (Option.any Ordering.isGT) (h.order?_of_isGE horder (hp o ho))

theorem HasNoOrder.not_sameKind (h : v.HasNoOrder) : ¬ v.SameKind a := by
  intro hkind
  cases h <;> cases hkind

/-- Comparisons with literals follow one order. Values of another kind than the literal are not in
it, and the order of two literals carries over to what is compared with them. -/
theorem check_order (v : Literal) (a : Json) (ha : a.HasFiniteNumbers) :
    (v.IsOrdered → v.SameKind a → Operator.FollowOrder fun op => (op.check a v).outcome) ∧
    (¬ v.SameKind a → ∀ op ∈ Operator.orderings, (op.check a v).outcome = false) ∧
    (v.HasNoOrder → ∀ op ∈ Operator.orderings, (op.check a v).outcome = false) ∧
    ∀ u : Literal, u.Precedes v →
      ((Operator.lt.check a u).outcome = true → (Operator.lt.check a v).outcome = true) ∧
      ((Operator.le.check a u).outcome = true → (Operator.lt.check a v).outcome = true) ∧
      ((Operator.gt.check a v).outcome = true → (Operator.gt.check a u).outcome = true) ∧
      ((Operator.ge.check a v).outcome = true → (Operator.gt.check a u).outcome = true) := by
  have hlt : ∀ o : Ordering, o.isLT → o.isLE := fun o ho =>
    Ordering.isLE_of_eq_lt (Ordering.isLT_iff_eq_lt.mp ho)
  have hgt : ∀ o : Ordering, o.isGT → o.isGE := fun o ho =>
    Ordering.isGE_of_eq_gt (Ordering.isGT_iff_eq_gt.mp ho)
  refine ⟨fun hv h => followOrder_of_sameKind hv ha h, ?_, ?_, ?_⟩
  · intro h op hop
    exact check_ordering_of_not_sameKind h hop
  · intro h op hop
    exact check_ordering_of_not_sameKind h.not_sameKind hop
  · intro u h
    exact ⟨h.check_lt hlt, h.check_lt fun _ ho => ho, h.check_gt hgt, h.check_gt fun _ ho => ho⟩

/-- Minus zero is equal to zero, and so it is before one. -/
theorem check_order_minus_zero :
    ∃ x : Binary64, x.toBits = Binary64.signBit ∧ (Json.number (.float x)).HasFiniteNumbers ∧
      (Operator.eq.check (.number (.float x)) (number (.ofInt 0))).outcome = true ∧
      (Operator.le.check (.number (.float x)) (number (.ofInt 0))).outcome = true ∧
      (Operator.lt.check (.number (.float x)) (number (.ofInt 1))).outcome = true := by
  have hfinite : (Json.number (.float ⟨true, 0, by decide⟩)).HasFiniteNumbers := by
    intro n hn
    cases hn
    decide
  have hordered : (number (.ofInt 0)).IsOrdered := Binary64.isNaN_ofRatio _ _ _
  have hprecedes : (number (.ofInt 0)).Precedes (number (.ofInt 1)) := .number (by decide +kernel)
  have heq : (Operator.eq.check (.number (.float ⟨true, 0, by decide⟩))
      (number (.ofInt 0))).outcome = true := by decide +kernel
  have hle := ((check_order _ _ hfinite).1 hordered .number).le.mpr (.inr heq)
  have hlt := ((check_order _ _ hfinite).2.2.2 _ hprecedes).2.1 hle
  exact ⟨⟨true, 0, by decide⟩, rfl, hfinite, heq, hle, hlt⟩

end Literal

end RecordFilter
