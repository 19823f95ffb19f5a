import Mathlib
import RecordFilter.Binary64

/-!
# Values of floating point numbers

The order of keys is the order of values, also across zero and from one power of two to the next.
What rounding gives is therefore known by its value: a multiple of a power of two, chosen so that
53 bits are left, and for integers that is a statement about integers alone.
-/

namespace RecordFilter.Binary64

variable {m n q den : Nat}

/-! ## Units -/

theorem binade_eq : binade = 2 ^ 52 := by decide

/-- Up to the end of the first binade the units are counted one by one. -/
theorem units_of_le (h : m ≤ binade) : units m = m := by
  rcases h.lt_or_eq with h | rfl
  · exact if_pos h
  · decide

/-- From there on a magnitude counts steps of the size that its binade has. The last step of a
binade is counted by either size. -/
theorem units_step (excess : Nat) (hq : binade ≤ q) (hq' : q ≤ 2 * binade) :
    units (excess * binade + q) = q * 2 ^ excess := by
  have hpos : 0 < binade := by decide
  have hge : ¬ excess * binade + q < binade := by omega
  rcases hq'.lt_or_eq with hlt | rfl
  · have hdiv : (excess * binade + q) / binade = excess + 1 := by
      rw [Nat.div_eq_iff hpos, Nat.add_mul]
      omega
    have hmod : (excess * binade + q) % binade = q - binade := by
      have := Nat.div_add_mod' (excess * binade + q) binade
      rw [hdiv, Nat.add_mul] at this
      omega
    rw [units, if_neg hge, hdiv, hmod, Nat.pow_eq, Nat.add_sub_cancel, Nat.add_sub_cancel' hq]
  · have hdouble : excess * binade + 2 * binade = (excess + 2) * binade := by ring
    rw [units, if_neg hge, hdouble, Nat.mul_div_cancel _ hpos, Nat.mul_mod_left, Nat.pow_eq,
      Nat.add_zero, Nat.add_sub_assoc (by decide), Nat.pow_succ]
    ring

theorem exists_step (h : binade ≤ m) :
    ∃ excess q, m = excess * binade + q ∧ binade ≤ q ∧ q < 2 * binade := by
  have hpos : 0 < binade := by decide
  have hdiv := Nat.div_add_mod' m binade
  have hmod := Nat.mod_lt m hpos
  obtain ⟨excess, hexcess⟩ := Nat.exists_eq_add_of_le' (Nat.div_pos h hpos)
  rw [hexcess, Nat.add_mul] at hdiv
  exact ⟨excess, binade + m % binade, by omega, by omega, by omega⟩

theorem units_strictMono : StrictMono units := by
  refine strictMono_nat_of_lt_succ fun m => ?_
  by_cases hm : m < binade
  · rw [units_of_le hm.le, units_of_le hm]
    exact Nat.lt_succ_self m
  · obtain ⟨excess, q, rfl, hq, hq'⟩ := exists_step (Nat.not_lt.mp hm)
    rw [Nat.add_assoc, units_step excess hq hq'.le, units_step excess (by omega) (by omega)]
    exact Nat.mul_lt_mul_of_pos_right (Nat.lt_succ_self q) (Nat.two_pow_pos excess)

/-! ## Signs -/

/-- A function of sizes, carried over to integers by their sign. -/
def withSign (f : Nat → Nat) (n : Int) : Int := n.sign * f n.natAbs

theorem withSign_neg (f : Nat → Nat) (n : Int) : withSign f (-n) = -withSign f n := by
  simp [withSign]

theorem withSign_natCast {f : Nat → Nat} (hf : f 0 = 0) (n : Nat) : withSign f n = f n := by
  cases n with
  | zero => simp [withSign, hf]
  | succ n =>
    have hsign : Int.sign (n + 1 : Nat) = 1 := Int.sign_eq_one_of_pos (by omega)
    rw [withSign, hsign, Int.natAbs_natCast, one_mul]

theorem withSign_monotone {f : Nat → Nat} (hf : f 0 = 0) (hmono : Monotone f) :
    Monotone (withSign f) := by
  refine monotone_of_odd_of_monotoneOn_nonneg (withSign_neg f) ?_
  intro a ha b hb hab
  obtain ⟨m, rfl⟩ := Int.eq_ofNat_of_zero_le ha
  obtain ⟨n, rfl⟩ := Int.eq_ofNat_of_zero_le hb
  simp only [withSign_natCast hf, Nat.cast_le] at hab ⊢
  exact hmono hab

theorem withSign_strictMono {f : Nat → Nat} (hf : f 0 = 0) (hmono : StrictMono f) :
    StrictMono (withSign f) := by
  refine strictMono_of_odd_strictMonoOn_nonneg (withSign_neg f) ?_
  intro a ha b hb hab
  obtain ⟨m, rfl⟩ := Int.eq_ofNat_of_zero_le ha
  obtain ⟨n, rfl⟩ := Int.eq_ofNat_of_zero_le hb
  simp only [withSign_natCast hf, Nat.cast_lt] at hab ⊢
  exact hmono hab

theorem key_eq_withSign (x : Binary64) :
    withSign units x.key = (if x.negative then -1 else 1) * units x.magnitude := by
  unfold key
  split
  · rw [withSign_neg, withSign_natCast rfl, neg_one_mul]
  · rw [withSign_natCast rfl, one_mul]

/-! ## Quotients -/

theorem divRound_mul_right (num den : Nat) (hn : 0 < n) :
    divRound (num * n) (den * n) = divRound num den := by
  have hmod : num * n % (den * n) = num % den * n := Nat.mul_mod_mul_right n num den
  have hlt : den * n < 2 * (num % den * n) ↔ den < 2 * (num % den) := by
    rw [← Nat.mul_assoc, Nat.mul_lt_mul_right hn]
  have heq : 2 * (num % den * n) = den * n ↔ 2 * (num % den) = den := by
    rw [← Nat.mul_assoc, Nat.mul_left_inj hn.ne']
  simp only [divRound, Nat.mul_div_mul_right _ _ hn, hmod, hlt, heq]

theorem divRound_mul_self (q : Nat) (hden : 0 < den) : divRound (q * den) den = q := by
  simp [divRound, Nat.mul_div_cancel _ hden, hden.ne]

theorem le_divRound (num den : Nat) : num / den ≤ divRound num den := by
  simp only [divRound]
  split <;> omega

theorem divRound_le (num den : Nat) : divRound num den ≤ num / den + 1 := by
  simp only [divRound]
  split <;> omega

/-- A rounded quotient is off by the remainder, or by what the remainder lacks. -/
theorem abs_sub_divRound (num : Nat) (hden : 0 < den) :
    |(num : Int) - divRound num den * den| = min (num % den) (den - num % den) := by
  have hsplit : (num : Int) = (num / den : Nat) * den + (num % den : Nat) := by
    exact_mod_cast (Nat.div_add_mod' num den).symm
  have hmod := Nat.mod_lt num hden
  simp only [divRound]
  rw [hsplit]
  generalize num / den = q at *
  generalize num % den = r at *
  split
  · have hdist : (q * den + r - (q + 1 : Nat) * den : Int) = -(den - r : Int) := by
      push_cast
      ring
    rw [hdist, abs_neg, abs_of_nonneg (by omega)]
    omega
  · rw [add_sub_cancel_left, abs_of_nonneg (by omega)]
    omega

/-- Nothing is near two multiples of the divisor. -/
theorem le_abs_sub_add_abs_sub {q j : Nat} (h : q ≠ j) (num den : Nat) :
    (den : Int) ≤ |(num : Int) - q * den| + |(num : Int) - j * den| := by
  have hone : (1 : Int) ≤ |(q : Int) - j| := Int.one_le_abs (by omega)
  have hapart : (den : Int) ≤ |(q : Int) * den - j * den| := by
    rw [← sub_mul, abs_mul, Nat.abs_cast]
    exact le_mul_of_one_le_left (by omega) hone
  have htriangle := abs_sub_le ((q : Int) * den) num (j * den)
  rw [abs_sub_comm ((q : Int) * den) num] at htriangle
  exact hapart.trans htriangle

/-- No multiple of the divisor is nearer. -/
theorem abs_sub_divRound_le (num j : Nat) (hden : 0 < den) :
    |(num : Int) - divRound num den * den| ≤ |(num : Int) - j * den| := by
  have hdist := abs_sub_divRound num hden
  by_cases hj : divRound num den = j
  · rw [hj]
  · have hsum := le_abs_sub_add_abs_sub hj num den
    omega

/-- If another multiple is as near then the quotient is the even one. -/
theorem divRound_even {num j : Nat} (hden : 0 < den) (hj : divRound num den ≠ j)
    (htie : |(num : Int) - j * den| = |(num : Int) - divRound num den * den|) :
    divRound num den % 2 = 0 := by
  have hdist := abs_sub_divRound num hden
  have hsum := le_abs_sub_add_abs_sub hj num den
  have hhalf : 2 * (num % den) = den := by omega
  simp only [divRound]
  split <;> omega

/-! ## Rounding -/

/-- How many bits a number has beyond the 53 that are kept. -/
def excessOf (n : Nat) : Nat := Nat.log2 n - 52

/-- What has any excess has no fewer than 53 bits without it. -/
theorem binade_mul_le_of_excess (h : excessOf n ≠ 0) : binade * 2 ^ excessOf n ≤ n := by
  have hlog : 52 + excessOf n = n.log2 := by
    unfold excessOf at *
    omega
  have hne : n ≠ 0 := by
    rintro rfl
    exact h (by simp [excessOf])
  rw [binade_eq, ← Nat.pow_add, hlog]
  exact Nat.log2_self_le hne

theorem lt_two_pow_of_excessOf_le {e : Nat} (h : excessOf n ≤ e) : n < 2 ^ (53 + e) := by
  refine Nat.lt_log2_self.trans_le (Nat.pow_le_pow_right (by decide) ?_)
  unfold excessOf at h
  omega

theorem two_pow_le_of_lt_excessOf {e : Nat} (h : e < excessOf n) : 2 ^ (53 + e) ≤ n := by
  have hbits := binade_mul_le_of_excess (n := n) (by omega)
  rw [binade_eq, ← Nat.pow_add] at hbits
  exact (Nat.pow_le_pow_right (by decide) (by omega)).trans hbits

/-- A rounded quotient that has lost its excess has at most 53 bits, or is the next power of two; if
it has lost any bits then it has no fewer. -/
theorem divRound_excess (num den : Nat) :
    divRound num (den * 2 ^ excessOf (num / den)) ≤ 2 * binade ∧
      (excessOf (num / den) = 0 ∨ binade ≤ divRound num (den * 2 ^ excessOf (num / den))) := by
  have hlower := le_divRound num (den * 2 ^ excessOf (num / den))
  have hupper := divRound_le num (den * 2 ^ excessOf (num / den))
  generalize divRound num (den * 2 ^ excessOf (num / den)) = q at *
  rw [← Nat.div_div_eq_div_mul] at hlower hupper
  generalize num / den = quotient at *
  have hlt : quotient / 2 ^ excessOf quotient < 2 * binade := by
    have hbits : quotient < 2 ^ (53 + excessOf quotient) := lt_two_pow_of_excessOf_le le_rfl
    rw [Nat.div_lt_iff_lt_mul (Nat.two_pow_pos _), binade_eq, ← Nat.pow_succ', ← Nat.pow_add]
    exact hbits
  refine ⟨by omega, ?_⟩
  by_cases hexcess : excessOf quotient = 0
  · exact .inl hexcess
  · have hge : binade ≤ quotient / 2 ^ excessOf quotient :=
      (Nat.le_div_iff_mul_le (Nat.two_pow_pos _)).mpr (binade_mul_le_of_excess hexcess)
    exact .inr (by omega)

theorem units_divRound (num den : Nat) :
    units (excessOf (num / den) * binade + divRound num (den * 2 ^ excessOf (num / den))) =
      divRound num (den * 2 ^ excessOf (num / den)) * 2 ^ excessOf (num / den) := by
  obtain ⟨hle, hge⟩ := divRound_excess num den
  generalize divRound num (den * 2 ^ excessOf (num / den)) = q at *
  generalize excessOf (num / den) = excess at *
  by_cases hq : binade ≤ q
  · exact units_step excess hq hle
  · obtain rfl := hge.resolve_right hq
    rw [Nat.zero_mul, Nat.zero_add, Nat.pow_zero, Nat.mul_one, units_of_le (by omega)]

theorem roundMagnitude_eq (num den : Nat) :
    roundMagnitude num den = min infinity
      (excessOf (num * unitsPerOne / den) * binade +
        divRound (num * unitsPerOne) (den * 2 ^ excessOf (num * unitsPerOne / den))) := rfl

/-- Rounding gives a number, if an infinite one. -/
theorem isNaN_ofRatio (negative : Bool) (num den : Nat) :
    (ofRatio negative num den).isNaN = false := by
  have hle : roundMagnitude num den ≤ infinity := Nat.min_le_left ..
  exact decide_eq_false (Nat.not_lt.mpr hle)

end RecordFilter.Binary64
