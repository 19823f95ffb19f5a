import RecordFilter.Proofs.Checking.Congruence
import RecordFilter.Proofs.Checking.Canonical
import RecordFilter.Proofs.Numbers.WholeTexts

/-!
# Spellings of whole numbers

A record may have a whole number as an integer or as a floating point number. As long as 53 bits
hold the number, no filter tells one from the other: where values are compared the integer becomes
the very same floating point number, and where patterns look at texts the two have one text.
-/

namespace RecordFilter

namespace Binary64

variable {x : Binary64} {n : Int}

/-- The value of a finite number is the integer, and the number is not the negative zero. -/
structure HasValue (x : Binary64) (n : Int) : Prop where
  finite : x.isFinite
  value : withSign units x.key = n * unitsPerOne
  positive : n = 0 → x.negative = false

theorem HasValue.eq_zero (h : x.HasValue n) (hm : x.magnitude = 0) : n = 0 := by
  have hkey : x.key = 0 := by
    unfold key
    split <;> simp [hm]
  have hvalue := h.value
  have hpos := unitsPerOne_pos
  rw [hkey, withSign, Int.sign_zero, Int.zero_mul] at hvalue
  generalize unitsPerOne = one at hvalue hpos
  exact (Int.mul_eq_zero.mp hvalue.symm).resolve_right (by omega)

/-- There is one such number, and it is the one nearest to the integer. -/
theorem hasValue_iff (hn : n.natAbs ≤ 2 ^ 53) : x.HasValue n ↔ x = ofInt n := by
  have hlt : n.natAbs < 2 ^ 64 := hn.trans_lt (by decide)
  have hvalue : withSign units (ofInt n).key = n * unitsPerOne := by
    rw [withSign_units_key_ofInt hlt, rounded_eq_self (isExact_of_natAbs_le hn)]
  constructor
  · intro h
    have hkey : x.key = (ofInt n).key :=
      (withSign_strictMono rfl units_strictMono).injective (h.value.trans hvalue.symm)
    have hsame : x.sameValue (ofInt n) = true :=
      sameValue_eq_true.mpr ⟨isNaN_of_isFinite h.finite, isNaN_ofRatio _ _ _, hkey⟩
    refine eq_of_sameValue hsame fun hm => ?_
    obtain rfl := h.eq_zero hm
    exact h.positive rfl
  · rintro rfl
    refine ⟨isFinite_ofInt hlt, hvalue, ?_⟩
    rintro rfl
    rfl

end Binary64

namespace Json

/-- The number is the integer, written as one or as floating point number. -/
inductive Number.IsWhole (n : Int) : Number → Prop
  | integer : IsWhole n (.integer n)
  | float (hx : x.HasValue n) : IsWhole n (.float x)

/-- The values differ at most in how whole numbers of 53 bits are written, at any depth. -/
inductive Respelled : Json → Json → Prop
  | same (v : Json) : Respelled v v
  | whole (hn : n.natAbs ≤ 2 ^ 53) (ha : Number.IsWhole n a) (hb : Number.IsWhole n b) :
      Respelled (number a) (number b)
  | array (h : List.Forall₂ Respelled items others) : Respelled (array items) (array others)
  | object (hnames : fields.map Prod.fst = members.map Prod.fst)
      (h : List.Forall₂ Respelled (fields.map Prod.snd) (members.map Prod.snd)) :
      Respelled (object fields) (object members)

variable {v u : Json} {a b : Number} {n : Int} {fields members : List (String × Json)}

namespace Number

theorem IsWhole.toBinary64_eq (h : a.IsWhole n) (hn : n.natAbs ≤ 2 ^ 53) :
    a.toBinary64 = Binary64.ofInt n := by
  cases h with
  | integer => rfl
  | float hx => exact (Binary64.hasValue_iff hn).mp hx

theorem IsWhole.scalarText?_eq (h : a.IsWhole n) (hn : n.natAbs ≤ 2 ^ 53) :
    (number a).scalarText? = some (Number.integer n).text := by
  cases h with
  | integer => rfl
  | float hx =>
    obtain rfl := (Binary64.hasValue_iff hn).mp hx
    exact congrArg some (Binary64.plainText_ofInt hn)

end Number

/-! ## Fields -/

theorem get?_respelled (name : String) (hnames : fields.map Prod.fst = members.map Prod.fst)
    (h : List.Forall₂ Respelled (fields.map Prod.snd) (members.map Prod.snd)) :
    Option.Rel Respelled (Entries.get? name fields) (Entries.get? name members) := by
  induction fields generalizing members with
  | nil =>
    cases members with
    | nil => exact .none
    | cons e members => cases hnames
  | cons e fields ih =>
    cases members with
    | nil => cases hnames
    | cons e' members =>
      obtain ⟨m, v⟩ := e
      obtain ⟨m', u⟩ := e'
      rw [List.map_cons, List.map_cons, List.cons.injEq] at hnames
      obtain ⟨rfl, hnames⟩ := hnames
      cases h with
      | cons hv hrest =>
        rw [Entries.get?, Entries.get?]
        split
        · exact .some hv
        · exact ih hnames hrest

theorem Respelled.field? (h : v.Respelled u) (name : String) :
    Option.Rel Respelled (v.field? name) (u.field? name) := by
  cases h with
  | same =>
    cases v.field? name with
    | none => exact .none
    | some w => exact .some (.same w)
  | object hnames h => exact get?_respelled name hnames h
  | _ => exact .none

/-- A path leads to values that differ in the same way only, null standing for what is not there. -/
theorem Respelled.descend? (h : v.Respelled u) (names : List (List Char)) :
    ((v.descend? names).getD null).Respelled ((u.descend? names).getD null) := by
  induction names generalizing v u with
  | nil => exact h
  | cons name names ih =>
    have hfield := h.field? (String.ofList name)
    rw [Json.descend?, Json.descend?]
    generalize v.field? (String.ofList name) = found at hfield
    generalize u.field? (String.ofList name) = found' at hfield
    cases hfield with
    | none => exact .same null
    | some hinner => exact ih hinner

/-! ## Comparisons -/

theorem Respelled.scalarText?_eq (h : v.Respelled u) : v.scalarText? = u.scalarText? := by
  cases h with
  | whole hn ha hb => rw [ha.scalarText?_eq hn, hb.scalarText?_eq hn]
  | _ => rfl

end Json

open Json (Respelled)

variable {a b : Json} {values others : List Json}

namespace Literal

theorem itemsEqual_respelled {items : List Literal}
    (ih : ∀ v ∈ items, ∀ a b : Json, a.Respelled b → v.equals a = v.equals b)
    (h : List.Forall₂ Respelled values others) :
    itemsEqual items values = itemsEqual items others := by
  induction items generalizing values others with
  | nil => cases h <;> rfl
  | cons v items ihl =>
    cases h with
    | nil => rfl
    | cons hv hrest =>
      have hitems := ihl (fun u hu => ih u (by simp [hu])) hrest
      rw [itemsEqual, itemsEqual, ih v (by simp) _ _ hv, hitems]

theorem equals_respelled (v : Literal) (h : a.Respelled b) : v.equals a = v.equals b := by
  induction v using induct_items generalizing a b with
  | list items ih =>
    cases h with
    | array h => exact itemsEqual_respelled (fun v hv a b => ih v hv) h
    | _ => rfl
  | number x =>
    cases h with
    | whole hn ha hb => rw [equals, equals, ha.toBinary64_eq hn, hb.toBinary64_eq hn]
    | _ => rfl
  | _ => cases h <;> rfl

theorem order?_respelled (v : Literal) (h : a.Respelled b) : v.order? a = v.order? b := by
  cases h with
  | whole hn ha hb =>
    cases v with
    | number x => rw [order?, order?, ha.toBinary64_eq hn, hb.toBinary64_eq hn]
    | _ => rfl
  | _ => cases v <;> rfl

theorem includes_respelled (v : Literal) (h : a.Respelled b) : v.includes a = v.includes b := by
  cases v <;> simp only [includes, equals_respelled _ h]

theorem any_equals_respelled (v : Literal) (h : List.Forall₂ Respelled values others) :
    values.any v.equals = others.any v.equals := by
  induction h with
  | nil => rfl
  | cons hv _ ih => rw [List.any_cons, List.any_cons, v.equals_respelled hv, ih]

end Literal

namespace Operator

theorem compare_respelled (op : Operator) (h : a.Respelled b) (v : Literal) :
    op.compare a v = op.compare b v := by
  cases op with
  | containsAny | containsAll =>
    cases h with
    | array h => cases v <;> simp only [compare, Literal.any_equals_respelled _ h]
    | _ => rfl
  | _ =>
    simp only [compare, v.equals_respelled h, v.order?_respelled h, v.includes_respelled h]

/-- Every operator does the same with a value however its whole numbers are written. -/
theorem check_respelled (op : Operator) (h : a.Respelled b) (v : Literal) :
    op.check a v = op.check b v := by
  simp only [check, op.compare_respelled h, h.scalarText?_eq]

end Operator

namespace Filter

/-- Records that differ at most in how whole numbers of 53 bits are written are checked alike: the
outcomes, the notices and what is kept of patterns are the same. -/
theorem check_whole_numbers (f : Filter) (synonyms : Synonyms) {r s : Json} (h : r.Respelled s) :
    f.check (.record r) synonyms = f.check (.record s) synonyms := by
  apply check_congr_of_records
  intro levels path op v _
  exact op.check_respelled (h.descend? (Json.segments path.toList)) v

/-- A zero, and the largest of these integers in a list in an object. -/
theorem check_whole_numbers_nested :
    let zero : Binary64 := ⟨false, 0, by decide⟩
    let large : Binary64 := ⟨false, 0x4340000000000000, by decide⟩
    let r : Json := .object [("n", .number (.integer 0)),
      ("o", .object [("a", .array [.string "t", .number (.integer 0x20000000000000)])])]
    let s : Json := .object [("n", .number (.float zero)),
      ("o", .object [("a", .array [.string "t", .number (.float large)])])]
    let f := joined .and [comparison "n" .eq (.pattern { source := "^0$", flags := "" }),
      comparison "o.a" .containsAll (.list [.number large])]
    r.Respelled s ∧ f.check (.record r) .empty = f.check (.record s) .empty := by
  intro zero large r s f
  have hzero : zero.HasValue 0 :=
    (Binary64.hasValue_iff (by decide)).mpr (by decide +kernel)
  have hlarge : large.HasValue 0x20000000000000 :=
    (Binary64.hasValue_iff (by decide)).mpr (by decide +kernel)
  have hitem : (Json.number (.integer 0x20000000000000)).Respelled (.number (.float large)) :=
    .whole (by decide) .integer (.float hlarge)
  have hitems : Json.Respelled (.array [.string "t", .number (.integer 0x20000000000000)])
      (.array [.string "t", .number (.float large)]) :=
    .array (.cons (.same _) (.cons hitem .nil))
  have hr : r.Respelled s :=
    .object rfl (.cons (.whole (by decide) .integer (.float hzero))
      (.cons (.object rfl (.cons hitems .nil)) .nil))
  exact ⟨hr, check_whole_numbers f .empty hr⟩

end Filter

end RecordFilter
