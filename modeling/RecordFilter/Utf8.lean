/-!
# Bytes as text

`Utf8.decode` reads any bytes as text. What is no encoded character becomes a replacement character:
one for every longest start of an encoded character, and one for every other byte. So it agrees with
strict decoding on all texts, and loses no character that is there.
-/

namespace RecordFilter.Utf8

def replacement : Char := '\ufffd'

/-- What a first byte announces. -/
structure Lead where
  /-- how many bytes follow -/
  count : Nat
  /-- the bits in the first byte -/
  bits : Nat
  /-- the range of the second byte -/
  lo : Nat
  hi : Nat

/-- A first byte of more than one. The range of the second one leaves out what has a shorter
encoding, surrogates, and what lies past the last character. -/
def lead? (b : Nat) : Option Lead :=
  if 0xC2 ≤ b ∧ b ≤ 0xDF then some ⟨1, b - 0xC0, 0x80, 0xBF⟩
  else if b = 0xE0 then some ⟨2, 0, 0xA0, 0xBF⟩
  else if b = 0xED then some ⟨2, 0xD, 0x80, 0x9F⟩
  else if 0xE1 ≤ b ∧ b ≤ 0xEF then some ⟨2, b - 0xE0, 0x80, 0xBF⟩
  else if b = 0xF0 then some ⟨3, 0, 0x90, 0xBF⟩
  else if 0xF1 ≤ b ∧ b ≤ 0xF3 then some ⟨3, b - 0xF0, 0x80, 0xBF⟩
  else if b = 0xF4 then some ⟨3, 4, 0x80, 0x8F⟩
  else none

/-- Takes further bytes, the first of them in the given range. There is a number only if all were
there. -/
def further (count bits lo hi : Nat) (s : List UInt8) : Option Nat × List UInt8 :=
  match count, s with
  | 0, s => (some bits, s)
  | _ + 1, [] => (none, [])
  | count + 1, b :: s =>
    if lo ≤ b.toNat ∧ b.toNat ≤ hi then further count (64 * bits + b.toNat % 64) 0x80 0xBF s
    else (none, b :: s)

theorem further_length_le (count bits lo hi : Nat) (s : List UInt8) :
    (further count bits lo hi s).2.length ≤ s.length := by
  fun_induction further count bits lo hi s <;> grind

/-- The text that some bytes encode, with replacements for what encodes none. -/
def decode (s : List UInt8) : List Char :=
  match s with
  | [] => []
  | b :: s =>
    if b.toNat < 0x80 then Char.ofNat b.toNat :: decode s
    else
      match lead? b.toNat with
      | none => replacement :: decode s
      | some l =>
        have := further_length_le l.count l.bits l.lo l.hi s
        match _h : further l.count l.bits l.lo l.hi s with
        | (some n, s') => Char.ofNat n :: decode s'
        | (none, s') => replacement :: decode s'
termination_by s.length
decreasing_by all_goals grind

def dropMark : List UInt8 → List UInt8
  | 0xEF :: 0xBB :: 0xBF :: s => s
  | s => s

end RecordFilter.Utf8
