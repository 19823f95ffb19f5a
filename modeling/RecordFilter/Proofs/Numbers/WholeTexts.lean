import RecordFilter.Proofs.Numbers.RoundTrip

/-!
# Texts of whole numbers

As long as 53 bits hold an integer, the floating point number of its value has the same plain text.
The shortest decimal is searched for from the coarsest grid on that could have it, and a grid of
whole steps only has it if the integer itself lies there: a decimal next to the integer would be
another integer, and that is another number. The one exception, the integer after `2 ^ 53`, which is
rounded to it, lies on the finest of these grids only, where the integer itself comes first.
-/

namespace RecordFilter

/-! ## Zeros at the end -/

theorem toDigits_mul_ten_pow {n : Nat} (hn : 0 < n) (e : Nat) :
    Nat.toDigits 10 (n * 10 ^ e) = Nat.toDigits 10 n ++ Binary64.zeros e := by
  induction e with
  | zero => simp [Binary64.zeros]
  | succ e ih =>
    have hpos : 0 < n * 10 ^ e := Nat.mul_pos hn (Nat.pow_pos (by decide))
    have hnext : n * 10 ^ (e + 1) = 10 * (n * 10 ^ e) + 0 := by ring
    have hzero : Nat.toDigits 10 0 = ['0'] := rfl
    rw [hnext, ← Nat.toDigits_append_toDigits (by decide) hpos (by decide), ih, hzero,
      List.append_assoc, Binary64.zeros, Binary64.zeros, List.replicate_succ']

theorem length_toDigits_mul_ten_pow {n : Nat} (hn : 0 < n) (e : Nat) :
    (Nat.toDigits 10 (n * 10 ^ e)).length = (Nat.toDigits 10 n).length + e := by
  rw [toDigits_mul_ten_pow hn, List.length_append, Binary64.zeros, List.length_replicate]

namespace Binary64

variable {n v : Nat}

/-! ## Integers that are rounded alike -/

theorem roundedNat_of_le (hn : n ≤ 2 ^ 53) : roundedNat n = n := by
  rcases hn.lt_or_eq with hlt | rfl
  · simpa using roundedNat_mul_two_pow_of_lt hlt 0
  · simpa using roundedNat_mul_two_pow_of_lt (k := 1) (by decide) 53

theorem units_roundMagnitude_of_le (hn : n ≤ 2 ^ 53) :
    units (roundMagnitude n 1) = n * unitsPerOne := by
  rw [units_roundMagnitude_one (lt_of_le_of_lt hn (by decide)), roundedNat_of_le hn]

/-- An integer of 53 bits is the only one that is rounded to it, apart from the one after the
largest. -/
theorem eq_of_roundMagnitude_eq (hn : n ≤ 2 ^ 53) (hv : v < 2 ^ 64)
    (h : roundMagnitude v 1 = roundMagnitude n 1) : v = n ∨ v = 2 ^ 53 + 1 := by
  have hunits : roundedNat v * unitsPerOne = n * unitsPerOne :=
    calc roundedNat v * unitsPerOne = units (roundMagnitude v 1) :=
          (units_roundMagnitude_one hv).symm
      _ = units (roundMagnitude n 1) := congrArg units h
      _ = n * unitsPerOne := units_roundMagnitude_of_le hn
  have hpos := unitsPerOne_pos
  generalize unitsPerOne = one at hunits hpos
  have hrounded : roundedNat v = n := Nat.eq_of_mul_eq_mul_right hpos hunits
  by_cases hle : v ≤ 2 ^ 53
  · left
    rwa [roundedNat_of_le hle] at hrounded
  · by_contra hne
    have hexact : roundedNat 0x20000000000002 = 0x20000000000002 := by
      simpa using roundedNat_mul_two_pow_of_lt (k := 0x10000000000001) (by decide) 1
    have hge : 0x20000000000002 ≤ v := by omega
    have hmono := roundedNat_mono hge
    omega

end Binary64

namespace Decimal

variable {tie : Tie} {n m : Nat} {d : Decimal}

/-! ## Grids of whole steps -/

theorem magnitude_natCast (c e : Nat) :
    (⟨c, e⟩ : Decimal).magnitude = Binary64.roundMagnitude (c * 10 ^ e) 1 := by
  have hden : (-(e : Int)).toNat = 0 := by omega
  unfold magnitude Binary64.ofDecimal
  rw [Binary64.magnitude_ofRatio]
  dsimp only
  rw [hden, Int.toNat_natCast]
  rfl

theorem floor_natCast (hm : Binary64.units m = n * Binary64.unitsPerOne) (e : Nat) :
    floor m e = ⟨n / 10 ^ e, n % 10 ^ e * Binary64.unitsPerOne,
      Binary64.unitsPerOne * 10 ^ e⟩ := by
  have hpos := Binary64.unitsPerOne_pos
  have hnum : (-(e : Int)).toNat = 0 := by omega
  unfold floor
  rw [hm, hnum, Int.toNat_natCast]
  generalize Binary64.unitsPerOne = one at hpos
  have hone : n * one * Nat.pow 10 0 = n * one := Nat.mul_one _
  have hden : one * Nat.pow 10 e = 10 ^ e * one := Nat.mul_comm _ _
  rw [hone, hden]
  dsimp only
  rw [Nat.mul_div_mul_right _ _ hpos, Nat.mul_mod_mul_right, Nat.mul_comm one]

theorem low_floor_neg (hm : Binary64.units m = n * Binary64.unitsPerOne) (p : Nat) :
    (floor m (-(p : Int))).low = n * 10 ^ p := by
  have hpos := Binary64.unitsPerOne_pos
  have hnum : (- -(p : Int)).toNat = p := by omega
  have hden : (-(p : Int)).toNat = 0 := by omega
  unfold floor
  rw [hm, hnum, hden]
  generalize Binary64.unitsPerOne = one at hpos
  have hone : one * Nat.pow 10 0 = one := Nat.mul_one _
  have hcomm : n * one * Nat.pow 10 p = n * 10 ^ p * one := Nat.mul_right_comm n one (10 ^ p)
  rw [hone, hcomm]
  exact Nat.mul_div_cancel _ hpos

/-- The point is after the digits of the integer. -/
theorem leadingPoint_eq (hn : 0 < n) (hm : Binary64.units m = n * Binary64.unitsPerOne) :
    leadingPoint m = (Nat.toDigits 10 n).length := by
  have hexponent : (-400 : Int) = -((400 : Nat) : Int) := rfl
  have hcount : (400 : Int) = ((400 : Nat) : Int) := rfl
  unfold leadingPoint
  rw [hexponent, hcount]
  generalize 400 = p
  rw [low_floor_neg hm, length_toDigits_mul_ten_pow hn]
  omega

theorem eq_of_choose? {below above : Decimal} {preferAbove : Bool}
    (h : choose? m preferAbove below above = some d) : d = below ∨ d = above := by
  unfold choose? at h
  split at h
  · obtain rfl := Option.some.inj h
    split
    · exact .inr rfl
    · exact .inl rfl
  · split at h
    · exact .inr (Option.some.inj h).symm
    · cases h

theorem Floor.prefersAbove_of_rest_eq_zero {f : Floor} (hrest : f.rest = 0) (hden : 0 < f.den)
    (tie : Tie) : f.prefersAbove tie = false := by
  rw [prefersAbove, hrest]
  simp [hden.ne]

theorem choose?_of_below {below above : Decimal} (h : below.magnitude = m) :
    choose? m false below above = some below := by
  rw [choose?, if_pos h]
  simp

/-- The finest of these grids has the integer itself. -/
theorem onGrid?_zero (hn : n ≤ 2 ^ 53) (hm : Binary64.roundMagnitude n 1 = m) (tie : Tie) :
    onGrid? tie m 0 = some ⟨n, 0⟩ := by
  have hunits := Binary64.units_roundMagnitude_of_le hn
  rw [hm] at hunits
  have hself := magnitude_natCast n 0
  rw [Nat.pow_zero, Nat.mul_one, hm, Nat.cast_zero] at hself
  have hfloor := floor_natCast hunits 0
  have hpos := Binary64.unitsPerOne_pos
  rw [Nat.cast_zero] at hfloor
  generalize Binary64.unitsPerOne = one at hfloor hpos
  rw [Nat.pow_zero, Nat.div_one, Nat.mod_one, Nat.zero_mul, Nat.mul_one] at hfloor
  unfold onGrid?
  rw [hfloor]
  dsimp only
  rw [Floor.prefersAbove_of_rest_eq_zero rfl hpos, choose?_of_below hself]

/-- What a grid of whole steps has is the integer, if a step is not larger than that. -/
theorem value_onGrid? {e : Nat} (hn : n ≤ 2 ^ 53) (hm : Binary64.roundMagnitude n 1 = m)
    (he : 10 ^ e ≤ n) (h : onGrid? tie m e = some d) :
    d.exponent = e ∧ d.coefficient * 10 ^ e = n := by
  have hunits := Binary64.units_roundMagnitude_of_le hn
  rw [hm] at hunits
  have hcases : d = ⟨n / 10 ^ e, e⟩ ∨ d = ⟨n / 10 ^ e + 1, e⟩ := by
    have hfloor := floor_natCast hunits e
    unfold onGrid? at h
    rw [hfloor] at h
    exact eq_of_choose? h
  have hread := magnitude_onGrid? h
  obtain ⟨c, rfl, hc⟩ : ∃ c : Nat, d = ⟨c, e⟩ ∧ c ≤ n / 10 ^ e + 1 := by
    rcases hcases with rfl | rfl
    · exact ⟨_, rfl, Nat.le_succ _⟩
    · exact ⟨_, rfl, le_rfl⟩
  refine ⟨rfl, ?_⟩
  rw [magnitude_natCast, ← hm] at hread
  have hbound : c * 10 ^ e < 2 ^ 64 := by
    calc c * 10 ^ e ≤ (n / 10 ^ e + 1) * 10 ^ e := Nat.mul_le_mul_right _ hc
      _ = n / 10 ^ e * 10 ^ e + 10 ^ e := Nat.succ_mul _ _
      _ ≤ n + n := Nat.add_le_add (Nat.div_mul_le_self _ _) he
      _ < 2 ^ 64 := by omega
  obtain heq | hnext := Binary64.eq_of_roundMagnitude_eq hn hbound hread
  · exact heq
  · cases e with
    | zero =>
      rw [Nat.cast_zero, onGrid?_zero hn hm] at h
      cases h
      exact Nat.mul_one n
    | succ e =>
      -- The integer after `2 ^ 53` is no multiple of ten.
      rw [Nat.pow_succ, ← Nat.mul_assoc] at hnext
      omega

/-- From a grid of whole steps on, the coarsest one that has the number has the integer. -/
theorem value_coarsest {e grids : Nat} (hn : n ≤ 2 ^ 53) (hm : Binary64.roundMagnitude n 1 = m)
    (he : 10 ^ e ≤ n) (hgrids : e < grids) (fallback : Decimal) :
    ∃ k : Nat, (coarsest (onGrid? tie m) fallback e grids).exponent = k ∧
      (coarsest (onGrid? tie m) fallback e grids).coefficient * 10 ^ k = n := by
  induction grids generalizing e with
  | zero => exact absurd hgrids (Nat.not_lt_zero e)
  | succ grids ih =>
    rw [coarsest]
    split
    · next d hd => exact ⟨e, value_onGrid? hn hm he hd⟩
    · next hnone =>
      cases e with
      | zero =>
        rw [Nat.cast_zero, onGrid?_zero hn hm] at hnone
        cases hnone
      | succ e =>
        have hfiner : ((e + 1 : Nat) : Int) - 1 = e := by omega
        have hle : 10 ^ e ≤ n := (Nat.pow_le_pow_right (by decide) (Nat.le_succ e)).trans he
        rw [hfiner]
        exact ih hle (by omega)

/-- The shortest decimal of an integer that 53 bits hold is the integer. -/
theorem value_shortest (tie : Tie) (hpos : 0 < n) (hn : n ≤ 2 ^ 53)
    (hm : Binary64.roundMagnitude n 1 = m) :
    ∃ k : Nat, (shortest tie m).exponent = k ∧ (shortest tie m).coefficient * 10 ^ k = n := by
  have hunits := Binary64.units_roundMagnitude_of_le hn
  rw [hm] at hunits
  obtain ⟨e, he⟩ : ∃ e, (Nat.toDigits 10 n).length = e + 1 :=
    Nat.exists_eq_add_of_le' Nat.length_toDigits_pos
  have hstart : leadingPoint m - 1 = e := by
    rw [leadingPoint_eq hpos hunits, he]
    omega
  have hle : 10 ^ e ≤ n := by
    cases e with
    | zero => exact hpos
    | succ e =>
      have hlength := Nat.length_toDigits_le_iff (n := n) (by decide : 1 < 10) (Nat.succ_pos e)
      omega
  have hgrids : e < 17 := by
    have hlength := Nat.length_toDigits_le_iff (n := n) (by decide : 1 < 10) (by decide : 0 < 16)
    omega
  unfold shortest
  rw [hstart]
  exact value_coarsest hn hm hle hgrids _

/-! ## The text -/

/-- A decimal of whole steps is laid out as the integer that it is. -/
theorem positional_natCast {k : Nat} (hexponent : d.exponent = k) (h : d.coefficient ≠ 0) :
    Binary64.positional d.digits d.point = Nat.toDigits 10 (d.coefficient * 10 ^ k) := by
  obtain ⟨zeros, hdigits⟩ := d.exists_toDigits_eq
  have hlength : 0 < d.digits.length := List.length_pos_iff.mpr (isDigits_digits h).ne_nil
  have hpoint : d.point = (d.digits.length + zeros + k : Nat) := by
    rw [point, hexponent, hdigits, List.length_append, Binary64.zeros, List.length_replicate]
    omega
  have hsplit : d.digits.length + zeros + k - d.digits.length = zeros + k := by omega
  rw [toDigits_mul_ten_pow (Nat.pos_of_ne_zero h), hdigits, hpoint, Binary64.positional,
    if_neg (by omega), Int.toNat_natCast]
  dsimp only
  rw [if_pos (by omega), hsplit, Binary64.zeros, Binary64.zeros, Binary64.zeros,
    List.append_assoc, List.replicate_append_replicate]

theorem positional_shortest (tie : Tie) (hpos : 0 < n) (hn : n ≤ 2 ^ 53)
    (hm : Binary64.roundMagnitude n 1 = m) :
    Binary64.positional (shortest tie m).digits (shortest tie m).point = Nat.toDigits 10 n := by
  obtain ⟨k, hexponent, hvalue⟩ := value_shortest tie hpos hn hm
  generalize shortest tie m = d at *
  have hne : d.coefficient ≠ 0 := by
    intro hzero
    rw [hzero, Nat.zero_mul] at hvalue
    exact hpos.ne hvalue
  rw [positional_natCast hexponent hne, hvalue]

end Decimal

/-- An integer that 53 bits hold and the floating point number of its value have one plain text. -/
theorem Binary64.plainText_ofInt {n : Int} (hn : n.natAbs ≤ 2 ^ 53) :
    (ofInt n).plainText = (Json.Number.integer n).text := by
  have hnan : (ofInt n).isNaN = false := isNaN_ofRatio _ _ _
  have hfinite : (ofInt n).magnitude ≠ infinity :=
    (isFinite_iff.mp (isFinite_ofInt (hn.trans_lt (by decide)))).ne
  obtain ⟨m, hm⟩ : ∃ m, roundMagnitude n.natAbs 1 = m := ⟨_, rfl⟩
  have hmagnitude : (ofInt n).magnitude = m := hm
  have hnegative : (ofInt n).negative = decide (n < 0) := rfl
  have htext := Json.Numeral.chars_integer n
  have hdigits : (Json.Numeral.integer n).chars =
      signed (decide (n < 0)) (Nat.toDigits 10 n.natAbs) := by
    simp [Json.Numeral.chars, Json.Numeral.integer, Json.Numeral.fractionChars,
      Json.Numeral.exponentChars]
  rw [← String.toList_inj, ← htext, hdigits, plainText, String.toList_ofList, plainChars, hnan,
    if_neg Bool.false_ne_true, if_neg hfinite, hmagnitude, hnegative]
  refine congrArg (signed (decide (n < 0))) ?_
  by_cases hzero : n.natAbs = 0
  · rw [hzero, roundMagnitude_zero] at hm
    rw [hzero, if_pos hm.symm]
    rfl
  · have hunits := units_roundMagnitude_of_le hn
    have hpos := unitsPerOne_pos
    rw [hm] at hunits
    generalize unitsPerOne = one at hunits hpos
    have hne : m ≠ 0 := by
      rintro rfl
      exact absurd hunits.symm (Nat.mul_pos (Nat.pos_of_ne_zero hzero) hpos).ne'
    rw [if_neg hne]
    exact Decimal.positional_shortest .away (Nat.pos_of_ne_zero hzero) hn hm

end RecordFilter
