import RecordFilter.Proofs.Json.CompactText
import RecordFilter.Proofs.Numbers.Rounding

/-!
# Integers as floating point numbers

An integer of 64 bits becomes a floating point number by losing what 53 bits do not hold. So two
such numbers compare as the rounded integers do. Rounding keeps the order, though it may make two
integers one, and it gives the nearest of the integers that have no more than 53 bits before their
final zeros, which are themselves kept.
-/

namespace RecordFilter.Binary64

variable {m n k p e : Nat}

/-- A natural number rounded to 53 bits, a half going to the even neighbour. -/
def roundedNat (n : Nat) : Nat := divRound n (2 ^ excessOf n) * 2 ^ excessOf n

@[simp] theorem roundedNat_zero : roundedNat 0 = 0 := by decide

/-! ## Bits -/

theorem log2_mul_two_pow (hn : n ≠ 0) (p : Nat) : Nat.log2 (n * 2 ^ p) = Nat.log2 n + p := by
  rw [Nat.log2_eq_iff (Nat.mul_ne_zero hn (Nat.two_pow_pos p).ne')]
  have hpow : 2 ^ (n.log2 + p + 1) = 2 ^ (n.log2 + 1) * 2 ^ p := by ring
  constructor
  · rw [Nat.pow_add]
    exact Nat.mul_le_mul_right _ (Nat.log2_self_le hn)
  · rw [hpow]
    exact Nat.mul_lt_mul_of_pos_right Nat.lt_log2_self (Nat.two_pow_pos p)

theorem excessOf_mono (h : n ≤ m) : excessOf n ≤ excessOf m := by
  rcases Nat.eq_zero_or_pos n with rfl | hn
  · simp [excessOf]
  · have hlog : n.log2 ≤ m.log2 :=
      (Nat.le_log2 (by omega)).mpr ((Nat.log2_self_le hn.ne').trans h)
    exact Nat.sub_le_sub_right hlog 52

/-! ## Rounded naturals -/

/-- 53 bits and zeros are kept. -/
theorem roundedNat_mul_two_pow_of_lt (hk : k < 2 ^ 53) (e : Nat) :
    roundedNat (k * 2 ^ e) = k * 2 ^ e := by
  rcases Nat.eq_zero_or_pos k with rfl | hpos
  · simp
  · have hlog : k.log2 < 53 := (Nat.log2_lt hpos.ne').mpr hk
    have hle : excessOf (k * 2 ^ e) ≤ e := by
      rw [excessOf, log2_mul_two_pow hpos.ne']
      omega
    unfold roundedNat
    generalize excessOf (k * 2 ^ e) = x at hle
    have hsplit : k * 2 ^ e = k * 2 ^ (e - x) * 2 ^ x := by
      rw [Nat.mul_assoc, ← Nat.pow_add, Nat.sub_add_cancel hle]
    rw [hsplit, divRound_mul_self _ (Nat.two_pow_pos x)]

/-- Rounding commutes with shifting. -/
theorem roundedNat_mul_two_pow (n p : Nat) : roundedNat (n * 2 ^ p) = roundedNat n * 2 ^ p := by
  by_cases hn : n < 2 ^ 53
  · have hself := roundedNat_mul_two_pow_of_lt hn 0
    rw [Nat.pow_zero, Nat.mul_one] at hself
    rw [hself, roundedNat_mul_two_pow_of_lt hn]
  · have hne : n ≠ 0 := by
      rintro rfl
      exact hn (by decide)
    have hlog : 52 ≤ n.log2 := (Nat.le_log2 hne).mpr (by omega)
    have hexcess : excessOf (n * 2 ^ p) = excessOf n + p := by
      rw [excessOf, excessOf, log2_mul_two_pow hne]
      omega
    rw [roundedNat, roundedNat, hexcess, Nat.pow_add, divRound_mul_right _ _ (Nat.two_pow_pos p),
      Nat.mul_assoc]

theorem divRound_mono (h : n ≤ m) (den : Nat) : divRound n den ≤ divRound m den := by
  have hdiv : n / den ≤ m / den := Nat.div_le_div_right h
  rcases hdiv.lt_or_eq with hlt | heq
  · exact (divRound_le n den).trans (hlt.trans_le (le_divRound m den))
  · have hn := Nat.div_add_mod n den
    have hm := Nat.div_add_mod m den
    rw [← heq] at hm
    simp only [divRound, ← heq]
    split <;> split <;> omega

/-- The excess grows only when the whole range of 53 bits has been passed. -/
theorem roundedNat_mono : Monotone roundedNat := by
  intro n m h
  have hn := (divRound_excess n 1).1
  have hm := (divRound_excess m 1).2
  rw [Nat.div_one, Nat.one_mul] at hn hm
  rcases (excessOf_mono h).lt_or_eq with hlt | heq
  · have hbinade := hm.resolve_left (by omega)
    calc roundedNat n ≤ 2 * binade * 2 ^ excessOf n := Nat.mul_le_mul_right _ hn
      _ = binade * 2 ^ (excessOf n + 1) := by ring
      _ ≤ binade * 2 ^ excessOf m := Nat.mul_le_mul_left _ (Nat.pow_le_pow_right (by decide) hlt)
      _ ≤ roundedNat m := Nat.mul_le_mul_right _ hbinade
  · unfold roundedNat
    rw [heq]
    exact Nat.mul_le_mul_right _ (divRound_mono h _)

theorem divRound_le_two_pow (n : Nat) : divRound n (2 ^ excessOf n) ≤ 2 ^ 53 := by
  have hle := (divRound_excess n 1).1
  rwa [Nat.div_one, Nat.one_mul, binade_eq, ← Nat.pow_succ'] at hle

/-- The rounded number is a multiple of what the excess counts; no other one is nearer. -/
theorem abs_sub_roundedNat_le_multiple (n j : Nat) :
    |(n : Int) - roundedNat n| ≤ |(n : Int) - (j * 2 ^ excessOf n : Nat)| := by
  unfold roundedNat
  exact_mod_cast abs_sub_divRound_le n j (Nat.two_pow_pos _)

/-- A number of 53 bits and zeros is such a multiple too, or it has fewer zeros; then it lies below
the smallest multiple that has as many bits, which is nearer. -/
theorem multiple_or_farther (n e : Nat) (hk : k < 2 ^ 53) :
    (∃ j, k * 2 ^ e = j * 2 ^ excessOf n) ∨
      |(n : Int) - roundedNat n| < |(n : Int) - (k * 2 ^ e : Nat)| := by
  by_cases he : excessOf n ≤ e
  · refine .inl ⟨k * 2 ^ (e - excessOf n), ?_⟩
    rw [Nat.mul_assoc, ← Nat.pow_add, Nat.sub_add_cancel he]
  · have hle : binade * 2 ^ excessOf n ≤ n := binade_mul_le_of_excess (by omega)
    have hbelow : k * 2 ^ e < binade * 2 ^ excessOf n :=
      calc k * 2 ^ e < 2 ^ 53 * 2 ^ e := Nat.mul_lt_mul_of_pos_right hk (Nat.two_pow_pos e)
        _ = binade * 2 ^ (e + 1) := by rw [binade_eq]; ring
        _ ≤ binade * 2 ^ excessOf n :=
          Nat.mul_le_mul_left _ (Nat.pow_le_pow_right (by decide) (by omega))
    have hnear := abs_sub_roundedNat_le_multiple n binade
    rw [abs_of_nonneg (a := (n : Int) - (binade * 2 ^ excessOf n : Nat)) (by omega)] at hnear
    refine .inr (hnear.trans_lt ?_)
    rw [abs_of_nonneg (by omega)]
    omega

/-- No number of 53 bits and zeros is nearer. -/
theorem abs_sub_roundedNat_le (n e : Nat) (hk : k < 2 ^ 53) :
    |(n : Int) - roundedNat n| ≤ |(n : Int) - (k * 2 ^ e : Nat)| := by
  rcases multiple_or_farther n e hk with ⟨j, hj⟩ | hlt
  · rw [hj]
    exact abs_sub_roundedNat_le_multiple n j
  · exact hlt.le

/-- If another such number is as near then the last of the 53 bits is zero. -/
theorem divRound_even_of_tie (e : Nat) (hk : k < 2 ^ 53) (hne : k * 2 ^ e ≠ roundedNat n)
    (htie : |(n : Int) - (k * 2 ^ e : Nat)| = |(n : Int) - roundedNat n|) :
    divRound n (2 ^ excessOf n) % 2 = 0 := by
  rcases multiple_or_farther n e hk with ⟨j, hj⟩ | hlt
  · rw [hj, roundedNat] at hne htie
    refine divRound_even (j := j) (Nat.two_pow_pos _) ?_ (by exact_mod_cast htie)
    rintro rfl
    exact hne rfl
  · exact absurd htie hlt.ne'

/-! ## The number nearest to an integer -/

theorem unitsPerOne_eq : unitsPerOne = 2 ^ 1074 := by
  unfold unitsPerOne
  -- As a variable the exponent keeps the power from being computed.
  generalize 1074 = p
  rfl

theorem unitsPerOne_pos : 0 < unitsPerOne := by
  rw [unitsPerOne_eq]
  positivity

/-- Integers of 64 bits are far from the infinities. -/
theorem roundMagnitude_one (hn : n < 2 ^ 64) :
    roundMagnitude n 1 =
      excessOf (n * unitsPerOne) * binade +
        divRound (n * unitsPerOne) (2 ^ excessOf (n * unitsPerOne)) := by
  have hle := (divRound_excess (n * unitsPerOne) 1).1
  have hexcess : excessOf (n * unitsPerOne) ≤ 1086 := by
    rcases Nat.eq_zero_or_pos n with rfl | hpos
    · simp [excessOf]
    · have hlog := (Nat.log2_lt hpos.ne').mpr hn
      rw [excessOf, unitsPerOne_eq, log2_mul_two_pow hpos.ne']
      omega
  rw [roundMagnitude_eq]
  rw [Nat.div_one, Nat.one_mul] at hle ⊢
  have hbound : excessOf (n * unitsPerOne) * binade ≤ 1086 * binade :=
    Nat.mul_le_mul_right _ hexcess
  refine Nat.min_eq_right (le_trans (Nat.add_le_add hbound hle) ?_)
  decide

theorem units_roundMagnitude_one (hn : n < 2 ^ 64) :
    units (roundMagnitude n 1) = roundedNat n * unitsPerOne := by
  have hunits := units_divRound (n * unitsPerOne) 1
  rw [Nat.div_one, Nat.one_mul] at hunits
  rw [roundMagnitude_one hn, hunits, unitsPerOne_eq, ← roundedNat_mul_two_pow]
  rfl

section Integers

variable {a b : Int}

/-- An integer rounded to 53 bits, a half going to the even neighbour. -/
def rounded (n : Int) : Int := withSign roundedNat n

theorem rounded_mono : Monotone rounded := withSign_monotone roundedNat_zero roundedNat_mono

/-- There are at most 53 bits before the final zeros. -/
def IsExact (n : Int) : Prop := ∃ (k : Int) (e : Nat), k.natAbs < 2 ^ 53 ∧ n = k * 2 ^ e

theorem isExact_of_natAbs_le (h : a.natAbs ≤ 2 ^ 53) : IsExact a := by
  rcases h.lt_or_eq with hlt | heq
  · exact ⟨a, 0, hlt, by simp⟩
  · rcases Int.natAbs_eq a with ha | ha <;> rw [heq] at ha
    · exact ⟨1, 53, by decide, by simpa using ha⟩
    · exact ⟨-1, 53, by decide, by simpa using ha⟩

theorem rounded_eq_self (h : IsExact a) : rounded a = a := by
  obtain ⟨k, e, hk, rfl⟩ := h
  have habs : (k * 2 ^ e).natAbs = k.natAbs * 2 ^ e := by
    simp [Int.natAbs_mul, Int.natAbs_pow]
  rw [rounded, withSign, habs, roundedNat_mul_two_pow_of_lt hk, ← habs, Int.sign_mul_natAbs]

theorem IsExact.neg (h : IsExact a) : IsExact (-a) := by
  obtain ⟨k, e, hk, rfl⟩ := h
  exact ⟨-k, e, by rwa [Int.natAbs_neg], (neg_mul ..).symm⟩

/-- No integer of 53 bits and zeros is nearer than this one is. If another is as near then this is
the even one, which has 52 bits and zeros. -/
structure IsNearest (n r : Int) : Prop where
  exact : IsExact r
  le : ∀ b, IsExact b → |n - r| ≤ |n - b|
  even : ∀ b, IsExact b → b ≠ r → |n - b| = |n - r| →
    ∃ (k : Int) (e : Nat), k.natAbs < 2 ^ 52 ∧ r = k * 2 ^ e

theorem IsNearest.neg (h : IsNearest a b) : IsNearest (-a) (-b) := by
  have hflip (c : Int) : |-a - c| = |a - -c| := by
    rw [← abs_neg]
    congr 1
    omega
  refine ⟨h.exact.neg, fun c hc => ?_, fun c hc hne htie => ?_⟩
  · rw [hflip, hflip, neg_neg]
    exact h.le (-c) hc.neg
  · rw [hflip, hflip, neg_neg] at htie
    obtain ⟨k, e, hk, hb⟩ := h.even (-c) hc.neg (by omega) htie
    exact ⟨-k, e, by rwa [Int.natAbs_neg], by rw [hb, neg_mul]⟩

/-- So many bits and zeros also hold the next power of two. -/
theorem exists_bits {bits q : Nat} (hbits : bits ≠ 0) (hq : q ≤ 2 ^ bits) (zeros : Nat) :
    ∃ (k : Int) (e : Nat), k.natAbs < 2 ^ bits ∧ ((q * 2 ^ zeros : Nat) : Int) = k * 2 ^ e := by
  rcases hq.lt_or_eq with hlt | rfl
  · exact ⟨q, zeros, by simpa using hlt, by push_cast; rfl⟩
  · exact ⟨1, bits + zeros, by simpa using Nat.one_lt_two_pow hbits, by push_cast; ring⟩

theorem isExact_roundedNat (n : Nat) : IsExact (roundedNat n) :=
  exists_bits (by decide) (divRound_le_two_pow n) (excessOf n)

theorem roundedNat_of_even (heven : divRound n (2 ^ excessOf n) % 2 = 0) :
    ∃ (k : Int) (e : Nat), k.natAbs < 2 ^ 52 ∧ (roundedNat n : Int) = k * 2 ^ e := by
  have hle := divRound_le_two_pow n
  obtain ⟨half, hhalf⟩ : ∃ half, divRound n (2 ^ excessOf n) = half * 2 :=
    ⟨divRound n (2 ^ excessOf n) / 2, by omega⟩
  have hrounded : roundedNat n = half * 2 ^ (excessOf n + 1) := by
    rw [roundedNat, hhalf, Nat.mul_assoc, Nat.pow_succ']
  rw [hrounded]
  exact exists_bits (by decide) (by omega) (excessOf n + 1)

theorem IsExact.exists_natCast (h : IsExact a) (ha : 0 ≤ a) :
    ∃ k e : Nat, k < 2 ^ 53 ∧ a = (k * 2 ^ e : Nat) := by
  obtain ⟨k, e, hk, rfl⟩ := h
  obtain ⟨j, rfl⟩ := Int.eq_ofNat_of_zero_le (nonneg_of_mul_nonneg_left ha (by positivity))
  exact ⟨j, e, by simpa using hk, by push_cast; rfl⟩

theorem isNearest_roundedNat (n : Nat) : IsNearest n (roundedNat n) := by
  -- Zero is a competitor, and it is nearer than anything negative.
  have hzero : |(n : Int) - roundedNat n| ≤ n := by
    simpa using abs_sub_roundedNat_le n 0 (k := 0) (by decide)
  have hnegative {b : Int} (hb : b < 0) : |(n : Int) - roundedNat n| < |(n : Int) - b| := by
    rw [abs_of_nonneg (a := (n : Int) - b) (by omega)]
    omega
  refine ⟨isExact_roundedNat n, fun b hb => ?_, fun b hb hne htie => ?_⟩
  · rcases lt_or_ge b 0 with hlt | hge
    · exact (hnegative hlt).le
    · obtain ⟨k, e, hk, rfl⟩ := hb.exists_natCast hge
      exact abs_sub_roundedNat_le n e hk
  · rcases lt_or_ge b 0 with hlt | hge
    · exact absurd htie (hnegative hlt).ne'
    · obtain ⟨k, e, hk, rfl⟩ := hb.exists_natCast hge
      exact roundedNat_of_even (divRound_even_of_tie e hk (by exact_mod_cast hne) htie)

theorem isNearest_rounded (a : Int) : IsNearest a (rounded a) := by
  obtain ⟨n, rfl | rfl⟩ := Int.eq_nat_or_neg a
  · rw [rounded, withSign_natCast roundedNat_zero]
    exact isNearest_roundedNat n
  · rw [rounded, withSign_neg, withSign_natCast roundedNat_zero]
    exact (isNearest_roundedNat n).neg

/-- What an integer stands for as a floating point number is the rounded integer. -/
theorem withSign_units_key_ofInt (ha : a.natAbs < 2 ^ 64) :
    withSign units (ofInt a).key = rounded a * unitsPerOne := by
  have hunits := units_roundMagnitude_one ha
  rw [key_eq_withSign, ofInt, ofRatio, hunits, rounded, withSign]
  generalize unitsPerOne = one
  rcases lt_trichotomy a 0 with hneg | rfl | hpos
  · simp [hneg, Int.sign_eq_neg_one_of_neg hneg]
  · simp
  · simp [hpos.not_gt, Int.sign_eq_one_of_pos hpos]

theorem compare_key_ofInt (ha : a.natAbs < 2 ^ 64) (hb : b.natAbs < 2 ^ 64) :
    compare (ofInt a).key (ofInt b).key = compare (rounded a) (rounded b) := by
  have hpos : (0 : Int) < unitsPerOne := Int.natCast_pos.mpr unitsPerOne_pos
  have hkeys := (withSign_strictMono (f := units) rfl units_strictMono).cmp_map_eq (ofInt a).key
    (ofInt b).key
  rw [withSign_units_key_ofInt ha, withSign_units_key_ofInt hb,
    (strictMono_mul_right_of_pos hpos).cmp_map_eq] at hkeys
  rw [← cmp_eq_compare, ← cmp_eq_compare, hkeys]

/-! ## Integers and their texts -/

/-- The integers of 64 bits, with or without a sign bit. -/
structure IsInteger64 (n : Int) : Prop where
  ge : -0x8000000000000000 ≤ n
  lt : n < 0x10000000000000000

theorem IsInteger64.natAbs_lt (ha : IsInteger64 a) : a.natAbs < 2 ^ 64 := by
  have := ha.ge
  have := ha.lt
  omega

/-- A filter reads an integer as the number nearest to it. -/
theorem ofPositional?_integer (n : Int) :
    ofPositional? (Json.Number.integer n).text.toList = some (ofInt n) := by
  have hnearest : (Json.Numeral.integer n).nearest = ofInt n := by
    simp [Json.Numeral.integer, Json.Numeral.nearest, Json.Numeral.part, ofDecimal, ofInt,
      digitsValue_toDigits]
  rw [← Json.Numeral.chars_integer, Json.Numeral.ofPositional?_chars _ rfl, hnearest]

end Integers

end RecordFilter.Binary64

namespace RecordFilter.Json

variable {n : Nat} {a : Int} {ds : List Char}

theorem le_digitsValue (n : Nat) (ds : List Char) : n ≤ digitsValue n ds := by
  induction ds generalizing n with
  | nil => exact le_rfl
  | cons d ds ih =>
    rw [digitsValue_cons]
    exact le_trans (by omega) (ih _)

/-- No digit is dropped from a number that fits. -/
theorem Number.absorb_of_lt (h : digitsValue n ds < significandBound) :
    absorb n ds = (digitsValue n ds, []) := by
  induction ds generalizing n with
  | nil => rfl
  | cons d ds ih =>
    rw [digitsValue_cons] at h ⊢
    have hnext := (le_digitsValue _ ds).trans_lt h
    simp only [absorb, if_pos hnext, ih h]

theorem head?_toDigits_ne_zero (hn : n ≠ 0) : (Nat.toDigits 10 n).head? ≠ some '0' := by
  induction n using Nat.strong_induction_on with
  | h n ih =>
    by_cases hlt : n < 10
    · rw [Nat.toDigits_of_lt_base hlt]
      interval_cases n <;> first | decide | exact absurd rfl hn
    · have hdiv : n / 10 ≠ 0 := by omega
      rw [Nat.toDigits_of_base_le (by decide) (by omega),
        List.head?_append_of_ne_nil _ Nat.toDigits_ne_nil]
      exact ih (n / 10) (by omega) hdiv

/-- An integer of 64 bits is read as itself. -/
theorem Number.reread_integer (ha : Binary64.IsInteger64 a) :
    (integer a).reread = some (number (integer a)) := by
  obtain ⟨hge, hlt⟩ := ha
  have hlead : ¬ ((Nat.toDigits 10 a.natAbs).head? = some '0' ∧
      (Nat.toDigits 10 a.natAbs).length ≠ 1) := by
    rintro ⟨hhead, hlength⟩
    by_cases hzero : a.natAbs = 0
    · exact hlength (by rw [hzero]; rfl)
    · exact head?_toDigits_ne_zero hzero hhead
  have habsorb : absorb 0 (Nat.toDigits 10 a.natAbs) = (a.natAbs, []) := by
    rw [absorb_of_lt] <;> rw [digitsValue_toDigits]
    unfold significandBound
    omega
  have hvalue : ofSignificand (decide (a < 0)) a.natAbs = integer a := by
    unfold ofSignificand Integer64.bound
    by_cases hneg : a < 0
    · rw [if_neg (by simpa using hneg), if_pos (by omega)]
      congr 1
      omega
    · rw [if_pos (by simpa using hneg)]
      congr 1
      omega
  have hchars : (integer a).text.toList = (Numeral.integer a).chars ++ [] := by
    rw [List.append_nil, Numeral.chars_integer]
  have hnumber : (Numeral.integer a).number? = some (integer a) := by
    simp [Numeral.integer, Numeral.number?, hlead, ofParts?, habsorb, hvalue]
  rw [reread, hchars, value?_numeral _ Filter.breaks_nil, hnumber]
  rfl

end RecordFilter.Json
