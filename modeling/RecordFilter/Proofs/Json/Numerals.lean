import RecordFilter.Json.Printer
import RecordFilter.Json.Reader
import RecordFilter.Proofs.Reading.Lexical

/-!
# Numerals

The text of a JSON number is a numeral: a sign, digits, and perhaps a fraction and an exponent, each
with digits of its own. That there are any digits to print rests on the shortest decimal of a
nonzero number not being zero. A numeral is read to its end if nothing follows that could be more of
it, and what is read is decided by its parts alone. Without an exponent it is a positional decimal
as well, and a filter reads it as the number nearest to its digits.
-/

namespace RecordFilter

/-! ## Digits -/

/-- Decimal digits, and not none of them. -/
structure IsDigits (ds : List Char) : Prop where
  ne_nil : ds ≠ []
  isDigit : ∀ c ∈ ds, c.isDigit

namespace IsDigits

variable {xs ys : List Char}

theorem toDigits (n : Nat) : IsDigits (Nat.toDigits 10 n) :=
  ⟨Nat.toDigits_ne_nil, fun _ => Nat.isDigit_of_mem_toDigits (by decide) (by decide)⟩

theorem zero : IsDigits ['0'] := ⟨by simp, by simp⟩

theorem isNumberChar (hx : IsDigits xs) : ∀ c ∈ xs, Filter.isNumberChar c := by
  intro c hc
  simp [Filter.isNumberChar, hx.isDigit c hc]

theorem append (hx : IsDigits xs) (hy : ∀ c ∈ ys, c.isDigit) : IsDigits (xs ++ ys) := by
  refine ⟨by simp [hx.ne_nil], fun c hc => ?_⟩
  exact (List.mem_append.mp hc).elim (hx.isDigit c) (hy c)

theorem prepend (hx : ∀ c ∈ xs, c.isDigit) (hy : IsDigits ys) : IsDigits (xs ++ ys) := by
  refine ⟨by simp [hy.ne_nil], fun c hc => ?_⟩
  exact (List.mem_append.mp hc).elim (hx c) (hy.isDigit c)

/-- Each part of digits that is not nothing is digits. -/
theorem sublist (hy : IsDigits ys) (h : xs.Sublist ys) (hne : xs ≠ []) : IsDigits xs :=
  ⟨hne, fun c hc => hy.isDigit c (h.subset hc)⟩

end IsDigits

theorem digitsValue_toDigits (n : Nat) : digitsValue 0 (Nat.toDigits 10 n) = n :=
  Nat.ofDigitChars_ten_toDigits

/-- Zeros move the digits before them, one place each. -/
theorem digitsValue_zeros (acc : Nat) {ds : List Char} (h : ∀ c ∈ ds, c = '0') :
    digitsValue acc ds = acc * 10 ^ ds.length := by
  induction ds generalizing acc with
  | nil => simp
  | cons d ds ih =>
    obtain rfl : d = '0' := h d (by simp)
    rw [digitsValue_cons, ih _ fun c hc => h c (by simp [hc]), List.length_cons, Nat.pow_succ']
    simp [Nat.mul_assoc, Nat.mul_left_comm]

theorem Binary64.eq_of_mem_zeros {n : Nat} {c : Char} (h : c ∈ Binary64.zeros n) : c = '0' :=
  List.eq_of_mem_replicate h

theorem Binary64.isDigit_of_mem_zeros {n : Nat} {c : Char} (h : c ∈ Binary64.zeros n) :
    c.isDigit := by
  rw [Binary64.eq_of_mem_zeros h]
  decide

/-! ## Shortest decimals -/

namespace Binary64

variable {m : Nat}

theorem roundMagnitude_zero (den : Nat) : roundMagnitude 0 den = 0 := by
  simp [roundMagnitude, divRound]

theorem natPow_ne_zero {b : Nat} (hb : b ≠ 0) (n : Nat) : Nat.pow b n ≠ 0 := pow_ne_zero n hb

theorem magnitude_ofRatio (negative : Bool) (num den : Nat) :
    (ofRatio negative num den).magnitude = roundMagnitude num den := rfl

theorem units_ne_zero (h : m ≠ 0) : units m ≠ 0 := by
  unfold units
  split
  · exact h
  · exact Nat.mul_ne_zero (by simp [binade]) (natPow_ne_zero (by decide) _)

end Binary64

namespace Decimal

variable {tie : Tie} {m : Nat} {exponent : Int} {d below above : Decimal} {preferAbove : Bool}

theorem magnitude_of_coefficient_eq_zero (h : d.coefficient = 0) : d.magnitude = 0 := by
  have hzero : d.coefficient * Nat.pow 10 d.exponent.toNat = 0 := by rw [h, Nat.zero_mul]
  rw [magnitude, Binary64.ofDecimal, hzero, Binary64.magnitude_ofRatio]
  exact Binary64.roundMagnitude_zero _

theorem magnitude_choose? (h : choose? m preferAbove below above = some d) : d.magnitude = m := by
  unfold choose? at h
  split at h
  · next hbelow =>
    obtain rfl := Option.some.inj h
    split
    · next habove => exact habove.2
    · exact hbelow
  · split at h
    · next habove =>
      obtain rfl := Option.some.inj h
      exact habove
    · exact absurd h (by simp)

theorem magnitude_onGrid? (h : onGrid? tie m exponent = some d) : d.magnitude = m :=
  magnitude_choose? h

theorem coefficient_exact_ne_zero (hm : m ≠ 0) : (exact m).coefficient ≠ 0 := by
  unfold exact
  dsimp only
  -- As a variable the exponent keeps the power from being computed.
  generalize 1074 = n
  exact Nat.mul_ne_zero (Binary64.units_ne_zero hm) (Binary64.natPow_ne_zero (by decide) n)

/-- What is true of the decimals on all grids, and of the fallback, is true of the coarsest one. -/
theorem forall_coarsest {P : Decimal → Prop} {grid? : Int → Option Decimal} {fallback : Decimal}
    (hgrid : ∀ exponent d, grid? exponent = some d → P d) (hfallback : P fallback)
    (exponent : Int) (grids : Nat) : P (coarsest grid? fallback exponent grids) := by
  induction grids generalizing exponent with
  | zero => exact hfallback
  | succ grids ih =>
    rw [coarsest]
    split
    · next d hd => exact hgrid exponent d hd
    · exact ih (exponent - 1)

/-- The shortest decimal of a number that is not zero is not zero. -/
theorem coefficient_shortest_ne_zero (tie : Tie) (hm : m ≠ 0) :
    (shortest tie m).coefficient ≠ 0 := by
  have hgrid : ∀ exponent (d : Decimal), onGrid? tie m exponent = some d → d.coefficient ≠ 0 := by
    intro exponent d hd hzero
    exact hm ((magnitude_onGrid? hd).symm.trans (magnitude_of_coefficient_eq_zero hzero))
  unfold shortest
  exact forall_coarsest hgrid (coefficient_exact_ne_zero hm) _ _

/-- A decimal that is not zero has significant digits. -/
theorem isDigits_digits (h : d.coefficient ≠ 0) : IsDigits d.digits := by
  have hsub : d.digits.Sublist (Nat.toDigits 10 d.coefficient) := by
    have hdrop := List.dropWhile_sublist (· == '0') (l := (Nat.toDigits 10 d.coefficient).reverse)
    rw [digits, ← List.reverse_sublist, List.reverse_reverse]
    exact hdrop
  refine (IsDigits.toDigits _).sublist hsub fun hnil => h ?_
  rw [digits, List.reverse_eq_nil_iff, List.dropWhile_eq_nil_iff] at hnil
  have hzeros : ∀ c ∈ Nat.toDigits 10 d.coefficient, c = '0' := by
    intro c hc
    simpa using hnil c (List.mem_reverse.mpr hc)
  rw [← digitsValue_toDigits d.coefficient, digitsValue_zeros 0 hzeros, Nat.zero_mul]

end Decimal

namespace Json

/-! ## Numerals -/

/-- The parts of a numeral. -/
structure Numeral where
  negative : Bool
  whole : List Char
  fraction : Option (List Char)
  exponent : Option Number.Exponent
  isDigits_whole : IsDigits whole
  isDigits_fraction : ∀ ds ∈ fraction, IsDigits ds
  isDigits_exponent : ∀ e ∈ exponent, IsDigits e.digits

namespace Numeral

def fractionChars : Option (List Char) → List Char
  | none => []
  | some ds => '.' :: ds

def exponentChars : Option Number.Exponent → List Char
  | none => []
  | some e => 'e' :: (if e.negative then '-' else '+') :: e.digits

/-- The text of a numeral. -/
def chars (n : Numeral) : List Char :=
  Binary64.signed n.negative (n.whole ++ fractionChars n.fraction ++ exponentChars n.exponent)

/-- The number that a numeral is read as. -/
def number? (n : Numeral) : Option Number :=
  if n.whole.head? = some '0' ∧ n.whole.length ≠ 1 then none
  else Number.ofParts? n.negative n.whole n.fraction n.exponent

end Numeral

/-- The characters that can go on a numeral after a digit. -/
def isNumeralChar (c : Char) : Bool := c.isDigit || c == '.' || c == 'e' || c == 'E'

/-! ## Numerals are read to their end -/

section Reading

open RecordFilter.Filter (Breaks breaks_cons)

variable {ds s rest : List Char} {c : Char} {levels : Nat}

theorem digits_run (hd : ∀ c ∈ ds, c.isDigit) (hs : Breaks Char.isDigit s) :
    digits (ds ++ s) = (ds, s) := by
  rw [digits, List.span_eq_takeWhile_dropWhile, hs.takeWhile_run hd, hs.dropWhile_run hd]

theorem breaks_isDigit (h : Breaks isNumeralChar s) : Breaks Char.isDigit s := by
  intro c hc
  have := h c hc
  simp only [isNumeralChar, Bool.or_eq_false_iff] at this
  exact this.1.1.1

theorem breaks_exponentChars (e : Option Number.Exponent) (h : Breaks isNumeralChar s) :
    Breaks Char.isDigit (Numeral.exponentChars e ++ s) := by
  cases e with
  | none => exact breaks_isDigit h
  | some e => exact breaks_cons.mpr (by decide)

theorem breaks_fractionChars (f : Option (List Char)) (h : Breaks Char.isDigit s) :
    Breaks Char.isDigit (Numeral.fractionChars f ++ s) := by
  cases f with
  | none => exact h
  | some ds => exact breaks_cons.mpr (by decide)

theorem fraction?_chars {f : Option (List Char)} (hf : ∀ ds ∈ f, IsDigits ds)
    (hs : Breaks Char.isDigit s) (hpoint : s.head? ≠ some '.') :
    fraction? (Numeral.fractionChars f ++ s) = some (f, s) := by
  cases f with
  | none =>
    unfold fraction?
    split
    · next heq =>
      rw [Numeral.fractionChars, List.nil_append] at heq
      simp [heq] at hpoint
    · rfl
  | some ds =>
    have hds := hf ds rfl
    simp [Numeral.fractionChars, fraction?, digits_run hds.isDigit hs, hds.ne_nil]

theorem exponentDigits?_run (negative : Bool) (hd : IsDigits ds) (hs : Breaks Char.isDigit s) :
    exponentDigits? negative (ds ++ s) = some (some ⟨negative, ds⟩, s) := by
  simp [exponentDigits?, digits_run hd.isDigit hs, hd.ne_nil]

theorem exponent?_chars {e : Option Number.Exponent} (he : ∀ x ∈ e, IsDigits x.digits)
    (hs : Breaks isNumeralChar s) : exponent? (Numeral.exponentChars e ++ s) = some (e, s) := by
  cases e with
  | none =>
    cases s with
    | nil => rfl
    | cons c s =>
      have hc := breaks_cons.mp hs
      simp only [isNumeralChar, Bool.or_eq_false_iff] at hc
      simp [Numeral.exponentChars, exponent?, hc.1.2, hc.2]
  | some e =>
    obtain ⟨negative, ds⟩ := e
    have hrun := exponentDigits?_run negative (he _ rfl) (breaks_isDigit hs)
    cases negative <;> simpa [Numeral.exponentChars, exponent?] using hrun

theorem head?_exponentChars (e : Option Number.Exponent) (h : Breaks isNumeralChar s) :
    (Numeral.exponentChars e ++ s).head? ≠ some '.' := by
  cases e with
  | none =>
    intro hpoint
    exact absurd (h '.' hpoint) (by decide)
  | some e => simp [Numeral.exponentChars]

theorem unsigned?_numeral (n : Numeral) (h : Breaks isNumeralChar rest) :
    unsigned? n.negative
        (n.whole ++ Numeral.fractionChars n.fraction ++ Numeral.exponentChars n.exponent ++ rest) =
      n.number?.map fun x => (number x, rest) := by
  have hexponent := breaks_exponentChars n.exponent h
  have hwhole := digits_run n.isDigits_whole.isDigit (breaks_fractionChars n.fraction hexponent)
  have hfraction := fraction?_chars n.isDigits_fraction hexponent (head?_exponentChars _ h)
  have hrest := exponent?_chars n.isDigits_exponent h
  have hne := n.isDigits_whole.ne_nil
  simp only [unsigned?, List.append_assoc, hwhole, hfraction, Numeral.number?]
  by_cases hlead : n.whole.head? = some '0' ∧ n.whole.length ≠ 1
  · simp [hlead, hne]
  · have hlead' : (n.whole.isEmpty ||
        n.whole.head? == some '0' && n.whole.length != 1) = false := by
      simp only [not_and, not_not] at hlead
      simpa [hne] using hlead
    rw [if_neg hlead, if_neg (by simp [hlead'])]
    simp only [Option.bind_eq_bind, Option.bind_some, hrest]
    cases Number.ofParts? n.negative n.whole n.fraction n.exponent <;> rfl

theorem value?_minus : value? levels ('-' :: s) = unsigned? true s := by
  simp [value?, skipSpace, isSpace]

theorem isSpace_of_isDigit (hc : c.isDigit) : isSpace c = false := by
  by_contra h
  simp only [isSpace, Bool.not_eq_false, Bool.or_eq_true, beq_iff_eq] at h
  rcases h with ((rfl | rfl) | rfl) | rfl <;> exact absurd hc (by decide)

theorem value?_digit (hc : c.isDigit) : value? levels (c :: s) = unsigned? false (c :: s) := by
  have hskip : skipSpace (c :: s) = c :: s :=
    (breaks_cons.mpr (isSpace_of_isDigit hc)).dropWhile_eq_self
  unfold value?
  rw [hskip]
  -- No other case of the reader starts with a digit.
  split <;> first | rfl | (next h => cases h; exact absurd hc (by decide))

/-- A numeral is read to its end, as the number of its parts. -/
theorem value?_numeral (n : Numeral) (h : Breaks isNumeralChar rest) :
    value? levels (n.chars ++ rest) = n.number?.map fun x => (number x, rest) := by
  have hunsigned := unsigned?_numeral n h
  obtain ⟨c, whole, hwhole⟩ := List.exists_cons_of_ne_nil n.isDigits_whole.ne_nil
  have hc : c.isDigit := n.isDigits_whole.isDigit c (by simp [hwhole])
  unfold Numeral.chars
  cases hn : n.negative with
  | true =>
    rw [hn] at hunsigned
    rw [Binary64.signed, if_pos rfl, List.cons_append, value?_minus, hunsigned]
  | false =>
    rw [hn, hwhole] at hunsigned
    rw [Binary64.signed, if_neg (by simp), hwhole]
    exact (value?_digit hc).trans hunsigned

end Reading

/-! ## Numerals as positional decimals -/

namespace Numeral

/-- The digits after the point. -/
def part (n : Numeral) : List Char := n.fraction.getD []

/-- The number nearest to a numeral without an exponent: all its digits, over a power of ten for
those after the point. -/
def nearest (n : Numeral) : Binary64 :=
  .ofDecimal n.negative (digitsValue 0 (n.whole ++ n.part)) (-(n.part.length : Int))

theorem ofUnsigned?_chars (n : Numeral) :
    Binary64.ofUnsigned? n.negative (n.whole ++ fractionChars n.fraction) = some n.nearest := by
  have hbreaks : Filter.Breaks Char.isDigit (fractionChars n.fraction ++ []) :=
    breaks_fractionChars n.fraction Filter.breaks_nil
  rw [List.append_nil] at hbreaks
  have hne := n.isDigits_whole.ne_nil
  have htake := hbreaks.takeWhile_run n.isDigits_whole.isDigit
  have hdrop := hbreaks.dropWhile_run n.isDigits_whole.isDigit
  unfold Binary64.ofUnsigned? nearest part
  rw [htake, hdrop]
  cases hfraction : n.fraction with
  | none => simp [fractionChars, hne]
  | some ds =>
    have hds := n.isDigits_fraction ds hfraction
    simpa [fractionChars, hne] using hds.isDigit

/-- A numeral without an exponent is a positional decimal. -/
theorem ofPositional?_chars (n : Numeral) (h : n.exponent = none) :
    Binary64.ofPositional? n.chars = some n.nearest := by
  have hunsigned := n.ofUnsigned?_chars
  unfold chars
  rw [h, exponentChars, List.append_nil]
  cases hn : n.negative with
  | true => rwa [hn] at hunsigned
  | false =>
    obtain ⟨c, whole, hwhole⟩ := List.exists_cons_of_ne_nil n.isDigits_whole.ne_nil
    have hc : c ≠ '-' := by
      rintro rfl
      exact absurd (n.isDigits_whole.isDigit '-' (by simp [hwhole])) (by decide)
    rw [hn, hwhole] at hunsigned
    rw [hwhole]
    simpa [Binary64.ofPositional?, Binary64.signed, hc] using hunsigned

theorem isNumberChar_fractionChars (n : Numeral) :
    ∀ c ∈ fractionChars n.fraction, Filter.isNumberChar c := by
  intro c hc
  cases hfraction : n.fraction with
  | none => simp [hfraction, fractionChars] at hc
  | some ds =>
    rw [hfraction, fractionChars] at hc
    rcases List.mem_cons.mp hc with rfl | hc
    · rfl
    · exact (n.isDigits_fraction ds hfraction).isNumberChar c hc

/-- A filter takes a numeral without an exponent as one run. -/
theorem isNumberChar_chars (n : Numeral) (h : n.exponent = none) :
    ∀ c ∈ n.chars, Filter.isNumberChar c := by
  have hunsigned : ∀ c ∈ n.whole ++ fractionChars n.fraction, Filter.isNumberChar c := by
    intro c hc
    rcases List.mem_append.mp hc with hc | hc
    · exact n.isDigits_whole.isNumberChar c hc
    · exact n.isNumberChar_fractionChars c hc
  intro c hc
  rw [chars, h, exponentChars, List.append_nil, Binary64.signed] at hc
  split at hc
  · rcases List.mem_cons.mp hc with rfl | hc
    · rfl
    · exact hunsigned c hc
  · exact hunsigned c hc

end Numeral

/-! ## Number texts -/

/-- The numeral of an integer. -/
def Numeral.integer (n : Int) : Numeral :=
  ⟨decide (n < 0), Nat.toDigits 10 n.natAbs, none, none, .toDigits _, by simp, by simp⟩

theorem Numeral.chars_integer (n : Int) : (integer n).chars = (Number.integer n).text.toList := by
  simp [Number.text, integer, chars, fractionChars, exponentChars]

section Layout

variable {negative : Bool} {ds : List Char} {point : Int}

/-- The numeral is the positional layout of digits. It has no point if the digits end before theirs,
and its value is that of the digits, moved by their point. -/
structure Numeral.LaysOut (n : Numeral) (negative : Bool) (ds : List Char) (point : Int) :
    Prop where
  negative_eq : n.negative = negative
  exponent_eq : n.exponent = none
  layout : n.whole ++ Numeral.fractionChars n.fraction = Binary64.positional ds point
  fraction_eq_none : n.fraction = none ↔ 0 < point ∧ ds.length ≤ point.toNat
  nearest_eq : n.nearest = .ofDecimal negative (digitsValue 0 ds) (point - ds.length)

theorem Numeral.LaysOut.chars {n : Numeral} (h : n.LaysOut negative ds point) :
    n.chars = Binary64.signed negative (Binary64.positional ds point) := by
  rw [Numeral.chars, h.negative_eq, h.exponent_eq, h.layout, exponentChars, List.append_nil]

/-- The point stands before the digits: a zero before it, and zeros between. -/
theorem Numeral.exists_laysOut_before (negative : Bool) (hd : IsDigits ds) (hpoint : point ≤ 0) :
    ∃ n : Numeral, n.LaysOut negative ds point := by
  let zeros := Binary64.zeros (-point).toNat
  have hpart : IsDigits (zeros ++ ds) := hd.prepend fun c => Binary64.isDigit_of_mem_zeros
  have hlead : digitsValue 0 ('0' :: zeros) = 0 := by
    have hzeros : ∀ c ∈ '0' :: zeros, c = '0' := by
      simpa using fun c => Binary64.eq_of_mem_zeros
    rw [digitsValue_zeros 0 hzeros, Nat.zero_mul]
  have hvalue : digitsValue 0 (['0'] ++ (zeros ++ ds)) = digitsValue 0 ds := by
    rw [← List.append_assoc, List.singleton_append, digitsValue_append, hlead]
  have hplaces : -((zeros ++ ds).length : Int) = point - ds.length := by
    simp only [zeros, Binary64.zeros, List.length_append, List.length_replicate]
    omega
  refine ⟨⟨negative, ['0'], some (zeros ++ ds), none, .zero, by simpa using hpart, by simp⟩,
    rfl, rfl, ?_, ?_, ?_⟩
  · rw [Binary64.positional, if_pos hpoint]
    rfl
  · simp [hpoint]
  · rw [nearest, part, Option.getD_some, hvalue, hplaces]

/-- The point stands within the digits. -/
theorem Numeral.exists_laysOut_within (negative : Bool) (hd : IsDigits ds) (hpoint : 0 < point)
    (hlen : point.toNat < ds.length) : ∃ n : Numeral, n.LaysOut negative ds point := by
  have hwhole : IsDigits (ds.take point.toNat) := by
    refine hd.sublist (List.take_sublist _ _) ?_
    rw [ne_eq, List.take_eq_nil_iff, not_or]
    exact ⟨by omega, hd.ne_nil⟩
  have hpart : IsDigits (ds.drop point.toNat) := by
    refine hd.sublist (List.drop_sublist _ _) ?_
    rw [ne_eq, List.drop_eq_nil_iff]
    exact hlen.not_ge
  have hplaces : -((ds.drop point.toNat).length : Int) = point - ds.length := by
    rw [List.length_drop]
    omega
  refine ⟨⟨negative, ds.take point.toNat, some (ds.drop point.toNat), none, hwhole,
    by simpa using hpart, by simp⟩, rfl, rfl, ?_, ?_, ?_⟩
  · rw [Binary64.positional, if_neg hpoint.not_ge]
    exact (if_neg hlen.not_ge).symm
  · simp [hlen]
  · rw [nearest, part, Option.getD_some, List.take_append_drop, hplaces]

/-- The point stands after the digits, with zeros before it, and is not written. -/
theorem Numeral.exists_laysOut_after (negative : Bool) (hd : IsDigits ds) (hpoint : 0 < point)
    (hlen : ds.length ≤ point.toNat) : ∃ n : Numeral, n.LaysOut negative ds point := by
  obtain ⟨k, hk⟩ := Int.eq_ofNat_of_zero_le (a := point - ds.length) (by omega)
  have hzeros : point.toNat - ds.length = k := by omega
  have hvalue : digitsValue 0 (ds ++ Binary64.zeros k) = digitsValue 0 ds * 10 ^ k := by
    rw [digitsValue_append, digitsValue_zeros _ fun c => Binary64.eq_of_mem_zeros, Binary64.zeros,
      List.length_replicate]
  refine ⟨⟨negative, ds ++ Binary64.zeros k, none, none,
    hd.append fun c => Binary64.isDigit_of_mem_zeros, by simp, by simp⟩, rfl, rfl, ?_, ?_, ?_⟩
  · simp [Binary64.positional, hpoint.not_ge, hlen, hzeros, fractionChars]
  · simp [hpoint, hlen]
  · simp [nearest, part, hvalue, hk, Binary64.ofDecimal]

theorem Numeral.exists_laysOut (negative : Bool) (point : Int) (hd : IsDigits ds) :
    ∃ n : Numeral, n.LaysOut negative ds point := by
  by_cases hpoint : point ≤ 0
  · exact exists_laysOut_before negative hd hpoint
  · by_cases hlen : ds.length ≤ point.toNat
    · exact exists_laysOut_after negative hd (not_le.mp hpoint) hlen
    · exact exists_laysOut_within negative hd (not_le.mp hpoint) (not_le.mp hlen)

/-- With a zero after the point for want of another digit, the layout is a numeral as well. -/
theorem Numeral.exists_positional (negative : Bool) (point : Int) (hd : IsDigits ds) :
    ∃ n : Numeral, n.chars = Binary64.signed negative
      (Binary64.positional ds point ++
        (if 0 < point && decide (ds.length ≤ point.toNat) then ".0".toList else [])) := by
  obtain ⟨n, hn⟩ := exists_laysOut negative point hd
  by_cases hend : 0 < point ∧ ds.length ≤ point.toNat
  · have hlayout := hn.layout
    rw [hn.fraction_eq_none.mpr hend, fractionChars, List.append_nil] at hlayout
    refine ⟨{ n with fraction := some ['0'], isDigits_fraction := by simpa using .zero }, ?_⟩
    simp [chars, hn.negative_eq, hn.exponent_eq, exponentChars, fractionChars, hlayout, hend]
  · refine ⟨n, ?_⟩
    simp [hn.chars, hend]

end Layout

theorem Numeral.exists_scientific (negative : Bool) {ds : List Char} (point : Int)
    (hd : IsDigits ds) :
    ∃ n : Numeral, n.chars = Binary64.signed negative (Binary64.scientific ds point) := by
  have hwhole : IsDigits (ds.take 1) :=
    hd.sublist (List.take_sublist _ _) (by simp [hd.ne_nil])
  have hexponent : IsDigits (Nat.toDigits 10 (point - 1).natAbs) := .toDigits _
  by_cases hdrop : ds.drop 1 = []
  · refine ⟨⟨negative, ds.take 1, none, some ⟨decide (point ≤ 0), _⟩, hwhole, by simp,
      by simpa using hexponent⟩, ?_⟩
    simp only [chars, fractionChars, exponentChars, Binary64.scientific, hdrop]
    simp
  · have hpart : IsDigits (ds.drop 1) := hd.sublist (List.drop_sublist _ _) hdrop
    refine ⟨⟨negative, ds.take 1, some (ds.drop 1), some ⟨decide (point ≤ 0), _⟩, hwhole,
      by simpa using hpart, by simpa using hexponent⟩, ?_⟩
    have hnonempty : (ds.drop 1).isEmpty = false := by
      simpa only [List.isEmpty_eq_false_iff] using hdrop
    simp only [chars, fractionChars, exponentChars, Binary64.scientific, hnonempty]
    simp

theorem Numeral.exists_jsonText (x : Binary64) (hx : x.isFinite) :
    ∃ n : Numeral, n.chars = x.jsonText.toList := by
  have hdigits : x.magnitude ≠ 0 → IsDigits (Decimal.shortest .even x.magnitude).digits :=
    fun hm => Decimal.isDigits_digits (Decimal.coefficient_shortest_ne_zero .even hm)
  unfold Binary64.jsonText
  -- What is known of the shortest decimal is said; its computation stays closed.
  generalize Decimal.shortest .even x.magnitude = d at hdigits ⊢
  rw [String.toList_ofList, hx, if_neg (by simp)]
  by_cases hm : x.magnitude = 0
  · refine ⟨⟨x.negative, ['0'], some ['0'], none, .zero, by simpa using .zero, by simp⟩, ?_⟩
    rw [if_pos hm]
    rfl
  · have hd := hdigits hm
    rw [if_neg hm]
    dsimp only
    by_cases hpoint : (decide (-4 ≤ d.point) && decide (d.point ≤ 16)) = true
    · rw [if_pos hpoint]
      exact exists_positional x.negative _ hd
    · rw [if_neg hpoint]
      exact exists_scientific x.negative _ hd

/-- The text of a number is a numeral, or it is that of null. -/
theorem Number.text_cases (n : Number) :
    n.text.toList = "null".toList ∨ ∃ m : Numeral, n.text.toList = m.chars := by
  cases n with
  | integer n => exact .inr ⟨.integer n, (Numeral.chars_integer n).symm⟩
  | float x =>
    by_cases hx : x.isFinite
    · obtain ⟨m, hm⟩ := Numeral.exists_jsonText x hx
      exact .inr ⟨m, hm.symm⟩
    · exact .inl (by simp [text, Binary64.jsonText, hx])

end Json

end RecordFilter
