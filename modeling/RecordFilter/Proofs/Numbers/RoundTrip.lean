import RecordFilter.Binary64.Text
import RecordFilter.Proofs.Numbers.Overflow
import RecordFilter.Proofs.Reading.Grammar

/-!
# Number texts read back

The plain text of a finite number is a numeral without an exponent, and it is read as the number
itself. Reading depends on the value of a numeral only, not on how it is laid out; the shortest
decimal has been tried before it was taken, and its fallback, the exact expansion, has the value of
the number, which rounding keeps.
-/

namespace RecordFilter

namespace Binary64

variable {m n num den num' den' : Nat}

/-! ## Rounding by value -/

theorem roundMagnitude_mul_right (num den : Nat) (hn : 0 < n) :
    roundMagnitude (num * n) (den * n) = roundMagnitude num den := by
  have hnum : num * n * unitsPerOne = num * unitsPerOne * n := Nat.mul_right_comm ..
  rw [roundMagnitude_eq, roundMagnitude_eq, hnum, Nat.mul_div_mul_right _ _ hn]
  generalize excessOf (num * unitsPerOne / den) = excess
  have hden : den * n * 2 ^ excess = den * 2 ^ excess * n := Nat.mul_right_comm ..
  rw [hden, divRound_mul_right _ _ hn]

/-- Equal fractions are rounded to the same number. -/
theorem roundMagnitude_congr (hden : 0 < den) (hden' : 0 < den')
    (h : num * den' = num' * den) : roundMagnitude num den = roundMagnitude num' den' := by
  calc roundMagnitude num den = roundMagnitude (num * den') (den * den') :=
        (roundMagnitude_mul_right num den hden').symm
    _ = roundMagnitude (num' * den) (den' * den) := by rw [h, Nat.mul_comm den den']
    _ = roundMagnitude num' den' := roundMagnitude_mul_right num' den' hden

theorem ofRatio_congr (negative : Bool) (hden : 0 < den) (hden' : 0 < den')
    (h : num * den' = num' * den) : ofRatio negative num den = ofRatio negative num' den' := by
  have hround := roundMagnitude_congr hden hden' h
  simp only [ofRatio, hround]

/-- The bits that the units of a magnitude have beyond 53 are all zeros. Without them the units
count the steps that the magnitude counts. -/
theorem steps_units (m : Nat) :
    excessOf (units m) * binade + divRound (units m) (2 ^ excessOf (units m)) = m := by
  by_cases hm : m < binade
  · have hexcess : excessOf m = 0 := by
      have hmono := excessOf_mono hm.le
      have hbinade : excessOf binade = 0 := by decide +kernel
      omega
    rw [units_of_le hm.le, hexcess, Nat.zero_mul, Nat.zero_add, Nat.pow_zero]
    have hself := divRound_mul_self m Nat.one_pos
    rwa [Nat.mul_one] at hself
  · obtain ⟨excess, q, rfl, hq, hq'⟩ := exists_step (Nat.not_lt.mp hm)
    have hpos : 0 < q := lt_of_lt_of_le (by decide) hq
    have hlog : q.log2 = 52 := by
      rw [Nat.log2_eq_iff hpos.ne', ← binade_eq]
      exact ⟨hq, by rw [Nat.pow_succ, ← binade_eq]; omega⟩
    have hexcess : excessOf (q * 2 ^ excess) = excess := by
      rw [excessOf, log2_mul_two_pow hpos.ne', hlog, Nat.add_sub_cancel_left]
    rw [units_step excess hq hq'.le, hexcess, divRound_mul_self q (Nat.two_pow_pos excess)]

/-- Rounding keeps what is the value of a number. -/
theorem roundMagnitude_units (hm : m ≤ infinity) : roundMagnitude (units m) unitsPerOne = m := by
  have hdiv : units m * unitsPerOne / unitsPerOne = units m :=
    Nat.mul_div_cancel _ unitsPerOne_pos
  have hquotient := divRound_mul_right (units m) (2 ^ excessOf (units m)) unitsPerOne_pos
  rw [roundMagnitude_eq, hdiv, Nat.mul_comm unitsPerOne, hquotient, steps_units]
  exact Nat.min_eq_right hm

/-- Zeros at the end of a coefficient are powers of ten. -/
theorem ofDecimal_mul_ten_pow (negative : Bool) (coefficient zeros : Nat) (exponent : Int) :
    ofDecimal negative (coefficient * 10 ^ zeros) exponent =
      ofDecimal negative coefficient (exponent + zeros) := by
  have hexponents : zeros + exponent.toNat + (-(exponent + zeros)).toNat =
      (exponent + zeros).toNat + (-exponent).toNat := by omega
  have hcross : coefficient * 10 ^ zeros * 10 ^ exponent.toNat * 10 ^ (-(exponent + zeros)).toNat =
      coefficient * 10 ^ (exponent + zeros).toNat * 10 ^ (-exponent).toNat := by
    simp only [Nat.mul_assoc, ← Nat.pow_add, hexponents]
  exact ofRatio_congr negative (Nat.pow_pos (by decide)) (Nat.pow_pos (by decide)) hcross

end Binary64

/-! ## Digits read back -/

namespace Decimal

variable {tie : Tie} {m : Nat}

theorem magnitude_exact (hm : m ≤ Binary64.infinity) : (exact m).magnitude = m := by
  have hround := Binary64.roundMagnitude_units hm
  rw [Binary64.unitsPerOne_eq] at hround
  have hexponent : (-1074 : Int) = -((1074 : Nat) : Int) := rfl
  unfold exact magnitude Binary64.ofDecimal
  rw [Binary64.magnitude_ofRatio]
  dsimp only
  rw [hexponent]
  -- As a variable the exponent keeps the power from being computed.
  generalize 1074 = p at hround ⊢
  have hnum : (-(p : Int)).toNat = 0 := by omega
  have hden : (- -(p : Int)).toNat = p := by omega
  have hcross : Binary64.units m * 5 ^ p * 10 ^ 0 * 2 ^ p = Binary64.units m * 10 ^ p := by
    rw [Nat.pow_zero, Nat.mul_one, Nat.mul_assoc, ← Nat.mul_pow]
  rw [hnum, hden]
  exact (Binary64.roundMagnitude_congr (Nat.pow_pos (by decide)) (Nat.two_pow_pos p)
    hcross).trans hround

/-- The shortest decimal reads back, be it one from a grid or the exact expansion. -/
theorem magnitude_shortest (tie : Tie) (hm : m ≤ Binary64.infinity) :
    (shortest tie m).magnitude = m := by
  have hgrid : ∀ exponent (d : Decimal), onGrid? tie m exponent = some d → d.magnitude = m :=
    fun exponent d hd => magnitude_onGrid? hd
  unfold shortest
  exact forall_coarsest hgrid (magnitude_exact hm) _ _

/-- The significant digits and zeros are the digits of the coefficient. -/
theorem exists_toDigits_eq (d : Decimal) :
    ∃ k : Nat, Nat.toDigits 10 d.coefficient = d.digits ++ Binary64.zeros k := by
  let reversed := (Nat.toDigits 10 d.coefficient).reverse
  let ending := (reversed.takeWhile (· == '0')).reverse
  have hsplit : d.digits ++ ending = Nat.toDigits 10 d.coefficient := by
    unfold digits ending reversed
    rw [← List.reverse_append, List.takeWhile_append_dropWhile, List.reverse_reverse]
  have hzeros : ending = Binary64.zeros ending.length := by
    rw [Binary64.zeros, List.eq_replicate_iff]
    refine ⟨rfl, fun c hc => ?_⟩
    simpa using List.mem_takeWhile_imp (List.mem_reverse.mp hc)
  exact ⟨ending.length, by rw [← hsplit, ← hzeros]⟩

/-- The value and the point of a decimal by its significant digits. -/
theorem exists_zeros (d : Decimal) :
    ∃ k : Nat, d.coefficient = digitsValue 0 d.digits * 10 ^ k ∧
      d.point = d.exponent + k + d.digits.length := by
  obtain ⟨k, hk⟩ := d.exists_toDigits_eq
  have hlength : (Binary64.zeros k).length = k := List.length_replicate
  refine ⟨k, ?_, ?_⟩
  · have hzeros : ∀ c ∈ Binary64.zeros k, c = '0' := fun c => Binary64.eq_of_mem_zeros
    have hvalue := digitsValue_zeros (digitsValue 0 d.digits) hzeros
    rw [← digitsValue_append, ← hk, digitsValue_toDigits, hlength] at hvalue
    exact hvalue
  · rw [point, hk, List.length_append, hlength]
    omega

theorem ofDecimal_digits (negative : Bool) (d : Decimal) :
    Binary64.ofDecimal negative (digitsValue 0 d.digits) (d.point - d.digits.length) =
      Binary64.ofDecimal negative d.coefficient d.exponent := by
  obtain ⟨k, hcoefficient, hpoint⟩ := d.exists_zeros
  have hexponent : d.point - d.digits.length = d.exponent + k := by omega
  rw [hexponent, hcoefficient, Binary64.ofDecimal_mul_ten_pow]

end Decimal

/-! ## Plain texts -/

theorem Binary64.ofDecimal_of_magnitude (negative : Bool) {d : Decimal} {m : Nat}
    (hm : m < 0x8000000000000000) (h : d.magnitude = m) :
    ofDecimal negative d.coefficient d.exponent = ⟨negative, m, hm⟩ := by
  subst h
  rfl

/-- The plain text of a finite number is a numeral without an exponent, and the number is the
nearest one to it. -/
theorem Binary64.exists_plainText (x : Binary64) (hx : x.isFinite) :
    ∃ n : Json.Numeral, n.exponent = none ∧ n.chars = x.plainText.toList ∧ n.nearest = x := by
  obtain ⟨negative, m, hm⟩ := x
  have hfinite : m < infinity := isFinite_iff.mp hx
  have hread := Decimal.magnitude_shortest .away hfinite.le
  have hdigits (h : m ≠ 0) : IsDigits (Decimal.shortest .away m).digits :=
    Decimal.isDigits_digits (Decimal.coefficient_shortest_ne_zero .away h)
  have hnan : isNaN ⟨negative, m, hm⟩ = false := decide_eq_false hfinite.not_gt
  unfold plainText plainChars
  -- Only what is known of the shortest decimal is used; its computation stays closed.
  generalize Decimal.shortest .away m = d at hread hdigits ⊢
  rw [String.toList_ofList, hnan, if_neg Bool.false_ne_true, if_neg hfinite.ne]
  by_cases hzero : m = 0
  · subst hzero
    refine ⟨⟨negative, ['0'], none, none, .zero, by simp, by simp⟩, rfl, ?_, ?_⟩
    · rw [if_pos rfl]
      rfl
    · exact ofDecimal_of_magnitude negative hm (d := ⟨0, 0⟩)
        (Decimal.magnitude_of_coefficient_eq_zero rfl)
  · obtain ⟨n, hn⟩ := Json.Numeral.exists_laysOut negative d.point (hdigits hzero)
    refine ⟨n, hn.exponent_eq, ?_, ?_⟩
    · rw [if_neg hzero]
      exact hn.chars
    · rw [hn.nearest_eq, Decimal.ofDecimal_digits]
      exact ofDecimal_of_magnitude negative hm hread

namespace Filter

/-- A finite number is spelled by its plain text. -/
theorem spellsValue_plainText (depth : Nat) (x : Binary64) (hx : x.isFinite) :
    SpellsValue depth x.plainText.toList (.number x) := by
  obtain ⟨n, hexponent, hchars, hnearest⟩ := x.exists_plainText hx
  have hread := n.ofPositional?_chars hexponent
  rw [hnearest] at hread
  rw [← hchars]
  exact .number (n.isNumberChar_chars hexponent) hread

/-- Finite numbers survive being written and read: their texts are numerals without an exponent, and
both a comparison with such a text and a search for it hold the number that was written. -/
theorem parse_plainText (x : Binary64) (hx : x.isFinite) :
    (∃ n : Json.Numeral, n.exponent = none ∧ n.chars = x.plainText.toList) ∧
      parse ("x=" ++ x.plainText) = comparison "x" .eq (.number x) ∧
      unparsed ("x=" ++ x.plainText) = 0 ∧
      parse ("0 " ++ x.plainText) = text (.number x) ∧ unparsed ("0 " ++ x.plainText) = 0 := by
  have hvalue := spellsValue_plainText 0 x hx
  have hcomparison : SpellsTerm 0
      ("x".toList ++ ([] ++ (Operator.eq.text.toList ++ ([] ++ x.plainText.toList)))) _ :=
    .comparison (by decide) (by simp) (by simp [Operator.isWord]) (by simp) hvalue
  have htext : SpellsTerm 0 ('0' :: ([' '] ++ _)) _ :=
    .afterZero (by simp [isSpace]) (by simp) hvalue
  have hread : read ("x=" ++ x.plainText) = (comparison "x" .eq (.number x), []) :=
    SpellsTerm.read_eq (by simpa [Operator.text] using hcomparison)
  have hread' : read ("0 " ++ x.plainText) = (text (.number x), []) :=
    SpellsTerm.read_eq (by simpa using htext)
  obtain ⟨n, hexponent, hchars, -⟩ := x.exists_plainText hx
  refine ⟨⟨n, hexponent, hchars⟩, ?_⟩
  rw [parse, parse, unparsed, unparsed, hread, hread']
  exact ⟨rfl, rfl, rfl, rfl⟩

/-- The negative number next to zero has 324 digits after the point; the negative zero has none. -/
theorem parse_plainText_smallest :
    parse ("x=-0." ++ String.ofList (Binary64.zeros 323) ++ "5") =
        comparison "x" .eq (.number ⟨true, 1, by decide⟩) ∧
      parse "0 -0" = text (.number ⟨true, 0, by decide⟩) := by
  have hnext : (⟨true, 1, by decide⟩ : Binary64).plainText =
      "-0." ++ String.ofList (Binary64.zeros 323) ++ "5" := by decide +kernel
  have hzero : (⟨true, 0, by decide⟩ : Binary64).plainText = "-0" := by decide +kernel
  have hread := (parse_plainText ⟨true, 1, by decide⟩ (by decide)).2.1
  have hread' := (parse_plainText ⟨true, 0, by decide⟩ (by decide)).2.2.2.1
  rw [hnext, ← String.append_assoc, ← String.append_assoc] at hread
  rw [hzero] at hread'
  exact ⟨hread, hread'⟩

end Filter

end RecordFilter
