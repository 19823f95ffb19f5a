import Mathlib
import RecordFilter.Proofs.Unicode.Tables

/-!
# The lower case of a part of a text

Characters are mapped one by one, but for a capital sigma, which looks at what is around it. So a
part of a text has the lower case in it that it has on its own as soon as each of its sigmas ends a
word in both or in neither.
-/

namespace RecordFilter.Unicode

/-- Whether a capital sigma would end a word between two texts, the first one given backwards. -/
def endsWord (before after : List Char) : Bool := meetsCased before && !meetsCased after

theorem endsWord_nil (after : List Char) : endsWord [] after = false := rfl

/-- The lower case of `s` between two texts, the first one given backwards. -/
def lowercaseBetween (before : List Char) : List Char → List Char → List Char
  | [], _ => []
  | c :: s, after =>
    (if c = 'Σ' then [if endsWord before (s ++ after) then 'ς' else 'σ'] else lowercaseChar c) ++
      lowercaseBetween (c :: before) s after

theorem lowercaseAfter_append (before s after : List Char) :
    lowercaseAfter before (s ++ after) =
      lowercaseBetween before s after ++ lowercaseAfter (s.reverse ++ before) after := by
  induction s generalizing before with
  | nil => rfl
  | cons c s ih =>
    rw [List.cons_append, lowercaseAfter, lowercaseBetween, ih, List.append_assoc,
      List.reverse_cons, List.append_assoc]
    rfl

theorem lowercase_eq (s : List Char) : lowercase s = lowercaseBetween [] s [] := by
  have happend := lowercaseAfter_append [] s []
  rw [List.append_nil] at happend
  rw [lowercase, happend]
  exact List.append_nil _

/-- Each capital sigma of `s` ends a word between two texts, the first one given backwards, if and
only if it ends one in `s` alone. -/
def SigmasAgree (before s after : List Char) : Prop :=
  ∀ u v, s = u ++ 'Σ' :: v → endsWord (u.reverse ++ before) (v ++ after) = endsWord u.reverse v

theorem sigmasAgree_of_not_mem {before s after : List Char} (h : 'Σ' ∉ s) :
    SigmasAgree before s after := by
  rintro u v rfl
  exact absurd (by simp) h

/-- The induction is on what is left of a text that has been read up to some place. -/
theorem lowercaseBetween_append (before read s after : List Char)
    (h : ∀ u v, s = u ++ 'Σ' :: v →
      endsWord (u.reverse ++ (read ++ before)) (v ++ after) = endsWord (u.reverse ++ read) v) :
    lowercaseBetween (read ++ before) s after = lowercaseBetween read s [] := by
  induction s generalizing read with
  | nil => rfl
  | cons c s ih =>
    have hrest : lowercaseBetween (c :: read ++ before) s after =
        lowercaseBetween (c :: read) s [] := by
      refine ih (c :: read) fun u v hs => ?_
      have hsigma := h (c :: u) v (by rw [hs, List.cons_append])
      simpa using hsigma
    rw [List.cons_append] at hrest
    rw [lowercaseBetween, lowercaseBetween, hrest, List.append_nil]
    by_cases hc : c = 'Σ'
    · have hsigma := h [] s (by rw [hc]; rfl)
      rw [List.reverse_nil, List.nil_append, List.nil_append] at hsigma
      rw [if_pos hc, if_pos hc, hsigma]
    · rw [if_neg hc, if_neg hc]

/-- Where the sigmas agree the lower case of a part is a part of the lower case. -/
theorem lowercase_infix {a s b : List Char} (h : SigmasAgree a.reverse s b) :
    lowercase s <:+: lowercase (a ++ (s ++ b)) := by
  have hpart : lowercaseBetween a.reverse s b = lowercase s := by
    rw [lowercase_eq]
    exact lowercaseBetween_append a.reverse [] s b (by simpa [SigmasAgree] using h)
  have hwhole : lowercase (a ++ (s ++ b)) =
      lowercaseBetween [] a (s ++ b) ++
        (lowercase s ++ lowercaseAfter (s.reverse ++ a.reverse) b) := by
    rw [lowercase, lowercaseAfter_append, List.append_nil, lowercaseAfter_append, hpart]
  rw [hwhole, ← List.append_assoc]
  exact List.infix_append _ _ _

/-! ## Digits -/

section Digits

variable {c : Char} {n t : Nat}

theorem isDigit_eq (c : Char) : c.isDigit = decide (48 ≤ c.toNat ∧ c.toNat ≤ 57) := by
  rw [Char.isDigit, Bool.decide_and]
  rfl

theorem CaseRun.target_le (r : CaseRun) (h : r.apply? n = some t) : r.target ≤ t := by
  unfold CaseRun.apply? at h
  split at h
  · cases h
    exact Nat.le_add_right ..
  · cases h

/-- What is no character is replaced by the first one of all. -/
theorem isDigit_ofNat (h : 'a'.toNat ≤ t) : (Char.ofNat t).isDigit = false := by
  have hle : 97 ≤ t := h
  rw [isDigit_eq, Char.toNat_ofNat, decide_eq_false_iff_not]
  split <;> omega

theorem isDigit_asciiLower (h : c.isDigit = false) : (asciiLower c).isDigit = false := by
  unfold asciiLower
  split
  · next hcapital =>
    have hge : 65 ≤ c.toNat := UInt32.le_iff_toNat_le.mp hcapital.1
    exact isDigit_ofNat (by change 97 ≤ c.toNat + 32; omega)
  · exact h

/-- A digit has no other case. -/
theorem lowercaseChar_of_isDigit (h : c.isDigit) : lowercaseChar c = [c] := by
  rw [isDigit_eq, decide_eq_true_eq] at h
  have hcapital : ¬ ('A' ≤ c ∧ c ≤ 'Z') := by
    intro hcapital
    have hge : 65 ≤ c.toNat := UInt32.le_iff_toNat_le.mp hcapital.1
    omega
  rw [lowercaseChar, if_pos (by omega), asciiLower, if_neg hcapital]

/-- Nothing else has a digit for its lower case. -/
theorem isDigit_of_mem_lowercaseChar (h : c.isDigit = false) :
    ∀ d ∈ lowercaseChar c, d.isDigit = false := by
  unfold lowercaseChar
  split
  · simpa using isDigit_asciiLower h
  split
  · rw [List.forall_mem_cons, List.forall_mem_singleton]
    exact ⟨rfl, rfl⟩
  · rw [List.forall_mem_singleton]
    cases htarget : lowercaseTable.findSome? fun r => r.apply? c.toNat with
    | none => exact h
    | some t =>
      obtain ⟨r, hr, happly⟩ := List.exists_of_findSome?_eq_some htarget
      exact isDigit_ofNat ((le_target_of_mem_lowercaseTable r hr).trans (r.target_le happly))

theorem filter_isDigit_lowercaseChar (c : Char) :
    (lowercaseChar c).filter Char.isDigit = [c].filter Char.isDigit := by
  by_cases hc : c.isDigit
  · rw [lowercaseChar_of_isDigit hc]
  · rw [Bool.not_eq_true] at hc
    have hnone := List.filter_eq_nil_iff.mpr fun d hd => by
      simpa using isDigit_of_mem_lowercaseChar hc d hd
    rw [hnone, List.filter_singleton, hc]
    rfl

/-- The lower case of a text has the digits of the text. -/
theorem filter_isDigit_lowercaseAfter (before s : List Char) :
    (lowercaseAfter before s).filter Char.isDigit = s.filter Char.isDigit := by
  induction s generalizing before with
  | nil => rfl
  | cons c s ih =>
    have hhead : (if c = 'Σ' then [if meetsCased before && !meetsCased s then 'ς' else 'σ']
        else lowercaseChar c).filter Char.isDigit = [c].filter Char.isDigit := by
      split
      · next hsigma =>
        subst hsigma
        split <;> decide
      · exact filter_isDigit_lowercaseChar c
    rw [lowercaseAfter, List.filter_append, hhead, ih, ← List.filter_append, List.singleton_append]

theorem filter_isDigit_lowercase (s : List Char) :
    (lowercase s).filter Char.isDigit = s.filter Char.isDigit :=
  filter_isDigit_lowercaseAfter [] s

end Digits

end RecordFilter.Unicode
