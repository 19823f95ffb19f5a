import RecordFilter.Proofs.Json.Nesting
import RecordFilter.Proofs.Numbers.Overflow

/-!
# Finite numbers

A JSON text has no way to write a number that is infinite or none, and reading makes none of one
that is too large: every number in a value that was read is finite.
-/

namespace RecordFilter.Json

variable {v : Json} {items : List Json} {fields : List (String × Json)} {n : Number}

namespace Number

open Binary64 (infinity)

variable {l m k significand : Nat} {ds : List Char} {negative : Bool} {exponent : Int}

theorem absorb_lt (h : significand < significandBound) (ds : List Char) :
    (absorb significand ds).1 < significandBound := by
  induction ds generalizing significand with
  | nil => exact h
  | cons d ds ih =>
    unfold absorb
    dsimp only
    split
    · next hnext => exact ih hnext
    · exact h

theorem scaleUp?_lt (h : scaleUp? m k = some l) : l < infinity := by
  unfold scaleUp? at h
  split at h
  · dsimp only at h
    split at h
    · next hlt =>
      obtain rfl := Option.some.inj h
      exact hlt
    · cases h
  · split at h
    · obtain rfl := Option.some.inj h
      decide
    · cases h

theorem scaleDown_lt (h : m < infinity) (k : Nat) : scaleDown m k < infinity := by
  have hpower (j : Nat) : Binary64.unitsPerOne ≤ Binary64.units (tenPower j) :=
    Binary64.unitsPerOne_le_units_roundMagnitude (Binary64.natPow_ne_zero (by decide) j)
  induction k using Nat.strong_induction_on generalizing m with
  | h k ih =>
    unfold scaleDown
    split
    · exact Binary64.divMagnitude_lt_infinity h (hpower k)
    · split
      · decide
      · refine ih _ ?_ (Binary64.divMagnitude_lt_infinity h (hpower maxTenPower))
        unfold maxTenPower at *
        omega

theorem scaled?_isFinite (hs : significand < significandBound)
    (h : scaled? negative significand exponent = some n) : n.toBinary64.isFinite = true := by
  have hstart : Binary64.roundMagnitude significand 1 < infinity := by
    rw [Binary64.roundMagnitude_lt_infinity_iff Nat.one_pos, Binary64.overflow]
    unfold significandBound at hs
    omega
  unfold scaled? at h
  dsimp only at h
  obtain ⟨m, hm, hn⟩ := Option.bind_eq_some_iff.mp h
  have hlt : m < infinity := by
    split at hm
    · exact scaleUp?_lt hm
    · cases hm
      exact scaleDown_lt hstart _
  split at hn
  · cases hn
    exact Binary64.isFinite_iff.mpr hlt
  · cases hn

theorem ofSignificand_isFinite (negative : Bool) (hs : significand < significandBound) :
    (ofSignificand negative significand).toBinary64.isFinite = true := by
  have hfinite (a : Int) (ha : a.natAbs = significand) : (Binary64.ofInt a).isFinite = true :=
    Binary64.isFinite_ofInt (by unfold significandBound at hs; omega)
  unfold ofSignificand
  split
  · exact hfinite significand rfl
  · split
    · exact hfinite (-significand) (by simp)
    · exact hfinite significand rfl

theorem ofParts?_isFinite {whole : List Char} {fraction : Option (List Char)}
    {exponent : Option Exponent} (h : ofParts? negative whole fraction exponent = some n) :
    n.toBinary64.isFinite = true := by
  have hnone : 0 < significandBound := by decide
  have hlead := absorb_lt hnone whole
  unfold ofParts? at h
  dsimp only at h
  split at h
  · cases h
    exact ofSignificand_isFinite negative hlead
  · have hpart := absorb_lt hlead (fraction.getD [])
    split at h
    · exact scaled?_isFinite hpart h
    · split at h
      · exact scaled?_isFinite hpart h
      · split at h
        · cases h
        · cases h
          rfl

end Number

/-! ## Values that were read -/

theorem unsigned?_isFinite {negative : Bool} {s rest : List Char}
    (h : unsigned? negative s = some (number n, rest)) : n.toBinary64.isFinite = true := by
  simp only [unsigned?, Option.bind_eq_bind] at h
  split at h
  · cases h
  · simp only [Option.bind_eq_some_iff] at h
    obtain ⟨e, -, e', -, m, hm, heq⟩ := h
    cases heq
    exact Number.ofParts?_isFinite hm

theorem value?_number_isFinite {levels : Nat} {s rest : List Char}
    (h : value? levels s = some (number n, rest)) : n.toBinary64.isFinite = true := by
  unfold value? at h
  split at h
  · obtain ⟨e, -, heq⟩ := Option.map_eq_some_iff.mp h
    cases heq
  · split at h
    · cases h
    · obtain ⟨e, -, heq⟩ := Option.map_eq_some_iff.mp h
      cases heq
  · split at h
    · cases h
    · obtain ⟨e, -, heq⟩ := Option.map_eq_some_iff.mp h
      cases heq
  · cases h
  · cases h
  · cases h
  · exact unsigned?_isFinite h
  · exact unsigned?_isFinite h

/-- The numbers of a value are finite, at any depth. -/
def HasFiniteNumbers (v : Json) : Prop := ∀ n, Within (number n) v → n.toBinary64.isFinite = true

/-- Reading gives finite numbers only. -/
theorem read?_hasFiniteNumbers {text : String} (h : read? text = some v) : v.HasFiniteNumbers := by
  refine read?_forall ?_ ?_ ?_ h
  · intro levels s u rest hread hscalar n hn
    cases hn with
    | self => exact value?_number_isFinite hread
    | item => exact absurd rfl (hscalar.1 _)
    | field => exact absurd rfl (hscalar.2 _)
  · intro items hitems n hn
    cases hn with
    | item hu hn => exact hitems _ hu n hn
  · intro members hmembers n hn
    cases hn with
    | field he hn => exact hmembers _ (Entries.mem_of_mem_ofList he) n hn

end RecordFilter.Json
