import RecordFilter.Proofs.Numbers.Integers

/-!
# Overflow

Which fractions are rounded to finite numbers. Past the largest finite number there is half a step
that is still rounded down to it, and what lies beyond becomes infinite. So integers of 64 bits stay
finite, and so does a finite number that is divided by one or more.
-/

namespace RecordFilter.Binary64

variable {m n k num den : Nat}

/-- A rounded quotient lies below an even number if the quotient lies below the middle between that
number and the one before, which would be rounded up. -/
theorem divRound_lt_iff (hden : 0 < den) (hk : 0 < k) (heven : k % 2 = 0) :
    divRound num den < k ↔ 2 * num < (2 * k - 1) * den := by
  have hsplit := Nat.div_add_mod' num den
  have hmod := Nat.mod_lt num hden
  have hmiddle : (2 * k - 1) * den = 2 * ((k - 1) * den) + den := by
    obtain ⟨j, rfl⟩ := Nat.exists_eq_add_of_le' hk
    have hodd : 2 * (j + 1) - 1 = 2 * j + 1 := by omega
    rw [hodd, Nat.add_sub_cancel]
    ring
  rw [hmiddle]
  unfold divRound
  generalize num / den = q at *
  generalize num % den = r at *
  dsimp only
  rcases Nat.lt_trichotomy q (k - 1) with hlt | rfl | hgt
  · have hle : (q + 1) * den ≤ (k - 1) * den := Nat.mul_le_mul_right den hlt
    rw [Nat.add_mul] at hle
    split <;> omega
  · split <;> omega
  · have hle : (k - 1 + 1) * den ≤ q * den := Nat.mul_le_mul_right den hgt
    rw [Nat.add_mul] at hle
    split <;> omega

/-- The least value that is too large to be rounded to a finite number: the largest such number and
half of the step to the next power of two. -/
def overflow : Nat := 2 ^ 1024 - 2 ^ 970

/-- The fractions that are rounded to finite numbers. Only those whose 53 bits end at `2 ^ 971` are
near enough to the bound to be looked at closely. -/
theorem roundMagnitude_lt_infinity_iff (hden : 0 < den) :
    roundMagnitude num den < infinity ↔ num < overflow * den := by
  obtain ⟨hle, hge⟩ := divRound_excess (num * unitsPerOne) den
  have hscale : num < overflow * den ↔
      2 * (num * unitsPerOne) < (2 * 2 ^ 53 - 1) * (den * 2 ^ 2045) := by
    rw [unitsPerOne_eq, overflow]
    omega
  have hfloor := Nat.div_add_mod' (num * unitsPerOne) den
  have hmod := Nat.mod_lt (num * unitsPerOne) hden
  rw [hscale, roundMagnitude_eq, min_lt_iff, or_iff_right (lt_irrefl _)]
  generalize num * unitsPerOne = scaled at *
  rcases Nat.lt_trichotomy (excessOf (scaled / den)) 2045 with hlt | heq | hgt
  · have hbits := lt_two_pow_of_excessOf_le (e := 2044) (by omega : excessOf (scaled / den) ≤ 2044)
    have hfits := Nat.mul_le_mul_right den (Nat.succ_le_of_lt hbits)
    have hsteps : excessOf (scaled / den) * binade ≤ 2044 * binade :=
      Nat.mul_le_mul_right binade (by omega)
    rw [Nat.succ_mul] at hfits
    unfold infinity binade at *
    constructor <;> intro <;> omega
  · have hround : divRound scaled (den * 2 ^ 2045) < 2 ^ 53 ↔ _ :=
      divRound_lt_iff (by positivity) (by decide) (by decide)
    rw [heq, ← hround]
    unfold infinity binade
    omega
  · have hbits := two_pow_le_of_lt_excessOf hgt
    have hpast := Nat.mul_le_mul_right den hbits
    have hfull := hge.resolve_left (by omega)
    have hsteps : 2046 * binade ≤ excessOf (scaled / den) * binade :=
      Nat.mul_le_mul_right binade hgt
    unfold infinity binade at *
    constructor <;> intro <;> omega

theorem units_lt_of_finite (h : m < infinity) : units m < overflow * unitsPerOne := by
  have hmax : units (2045 * binade + (2 * binade - 1)) = (2 * binade - 1) * 2 ^ 2045 :=
    units_step 2045 (by decide) (by decide)
  have hle : units m ≤ units (2045 * binade + (2 * binade - 1)) := by
    refine units_strictMono.monotone ?_
    unfold infinity binade at *
    omega
  rw [hmax] at hle
  refine hle.trans_lt ?_
  rw [unitsPerOne_eq, overflow]
  unfold binade
  omega

/-- Nothing that is one or more is rounded to less than one. -/
theorem unitsPerOne_le_units_roundMagnitude (hn : n ≠ 0) :
    unitsPerOne ≤ units (roundMagnitude n 1) := by
  have hexcess : 1022 ≤ excessOf (n * unitsPerOne) := by
    rw [excessOf, unitsPerOne_eq, log2_mul_two_pow hn]
    omega
  have hfull := (divRound_excess (n * unitsPerOne) 1).2
  have hone : unitsPerOne ≤ units (1022 * binade + binade) := by
    rw [units_step 1022 le_rfl (by decide), unitsPerOne_eq]
    unfold binade
    omega
  refine hone.trans (units_strictMono.monotone ?_)
  rw [roundMagnitude_eq]
  rw [Nat.div_one, Nat.one_mul] at *
  refine le_min (by decide) (Nat.add_le_add ?_ ?_)
  · exact Nat.mul_le_mul_right binade hexcess
  · exact hfull.resolve_left (by omega)

/-! ## Finite results -/

theorem isFinite_iff {x : Binary64} : x.isFinite = true ↔ x.magnitude < infinity := by
  simp [isFinite]

theorem isFinite_ofRatio (negative : Bool) (hden : 0 < den) :
    (ofRatio negative num den).isFinite = true ↔ num < overflow * den := by
  rw [isFinite_iff]
  exact roundMagnitude_lt_infinity_iff hden

theorem isFinite_ofInt {a : Int} (ha : a.natAbs < 2 ^ 64) : (ofInt a).isFinite = true := by
  rw [ofInt, isFinite_ofRatio _ Nat.one_pos, overflow]
  omega

theorem divMagnitude_lt_infinity (hm : m < infinity) (hn : unitsPerOne ≤ units n) :
    divMagnitude m n < infinity := by
  rw [divMagnitude, roundMagnitude_lt_infinity_iff (unitsPerOne_pos.trans_le hn)]
  exact (units_lt_of_finite hm).trans_le (Nat.mul_le_mul_left overflow hn)

end RecordFilter.Binary64
