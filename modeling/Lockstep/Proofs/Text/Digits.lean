import Lockstep.Text.Hexadecimal
import Mathlib.Tactic.ByContra
import Mathlib.Tactic.SplitIfs

namespace Lockstep.Hex

variable {n : Nat} {digits : List Char}

theorem digitValue?_digit (h : n < 16) : digitValue? (digit n) = some n := by
  revert h
  revert n
  decide

theorem toNat_digit_lt (h : n < 16) : (digit n).toNat < 128 := by
  revert h
  revert n
  decide

theorem digit_eq_digitChar (h : n < 16) : digit n = Nat.digitChar n := by
  revert h
  revert n
  decide

theorem isDigit_digit (h : n < 16) : isDigit (digit n) = true := by
  rw [isDigit, digitValue?_digit h]
  rfl

theorem digit_eq_zero_iff (h : n < 16) : digit n = '0' ↔ n = 0 := by
  revert h
  revert n
  decide

theorem digitValue?_eq (c : Char) :
    digitValue? c =
      if 0x30 ≤ c.toNat ∧ c.toNat < 0x3a then some (c.toNat - 0x30)
      else if 0x61 ≤ c.toNat ∧ c.toNat < 0x67 then some (c.toNat - 0x61 + 10)
      else if 0x41 ≤ c.toNat ∧ c.toNat < 0x47 then some (c.toNat - 0x41 + 10)
      else none := by
  have hle : ∀ a b : Char, a ≤ b ↔ a.toNat ≤ b.toNat := fun a b ↦ UInt32.le_iff_toNat_le
  have hlt : ∀ a b : Char, a ≤ b ↔ a.toNat < b.toNat + 1 :=
    fun a b ↦ (hle a b).trans Nat.lt_succ_iff.symm
  have h₀ : ('0' ≤ c ∧ c ≤ '9') ↔ 0x30 ≤ c.toNat ∧ c.toNat < 0x3a := and_congr (hle ..) (hlt ..)
  have h₁ : ('a' ≤ c ∧ c ≤ 'f') ↔ 0x61 ≤ c.toNat ∧ c.toNat < 0x67 := and_congr (hle ..) (hlt ..)
  have h₂ : ('A' ≤ c ∧ c ≤ 'F') ↔ 0x41 ≤ c.toNat ∧ c.toNat < 0x47 := and_congr (hle ..) (hlt ..)
  simp only [digitValue?, h₀, h₁, h₂]
  rfl

theorem digitValue?_lt {c : Char} (h : digitValue? c = some n) : n < 16 := by
  rw [digitValue?_eq] at h
  split_ifs at h <;> cases h <;> omega

theorem toNat_toLower (c : Char) :
    c.toLower.toNat = if 0x41 ≤ c.toNat ∧ c.toNat < 0x5b then c.toNat + 0x20 else c.toNat := by
  have hc : (c.val ≥ 'A'.val ∧ c.val ≤ 'Z'.val) ↔ 0x41 ≤ c.toNat ∧ c.toNat < 0x5b := by
    rw [ge_iff_le, UInt32.le_iff_toNat_le, UInt32.le_iff_toNat_le]
    exact and_congr_right fun _ ↦ Nat.lt_succ_iff.symm
  unfold Char.toLower
  split
  · rename_i h
    obtain ⟨hl, hu⟩ := hc.mp h
    have hs : ('a'.val - 'A'.val).toNat = 0x20 := rfl
    have hn : c.val.toNat = c.toNat := rfl
    rw [if_pos ⟨hl, hu⟩, ← hn]
    change (c.val + ('a'.val - 'A'.val)).toNat = c.val.toNat + 0x20
    rw [UInt32.toNat_add, hs, Nat.mod_eq_of_lt (by omega)]
  · rename_i h
    rw [if_neg (mt hc.mpr h)]

theorem digitValue?_toLower (c : Char) : digitValue? c.toLower = digitValue? c := by
  rw [digitValue?_eq, digitValue?_eq, toNat_toLower]
  by_cases h : 0x41 ≤ c.toNat ∧ c.toNat < 0x5b
  · rw [if_pos h]
    by_cases hd : c.toNat < 0x47
    · rw [if_neg (by omega), if_pos (by omega), if_neg (by omega), if_neg (by omega),
        if_pos (by omega)]
      exact congrArg some (by omega)
    · rw [if_neg (by omega), if_neg (by omega), if_neg (by omega), if_neg (by omega),
        if_neg (by omega), if_neg (by omega)]
  · rw [if_neg h]

theorem isDigit_toLower (c : Char) : isDigit c.toLower = isDigit c := by
  rw [isDigit, isDigit, digitValue?_toLower]

theorem value_map_toLower (digits : List Char) : value (digits.map Char.toLower) = value digits := by
  simp only [value, List.foldl_map, digitValue?_toLower]

theorem toLower_digit {n : Nat} (h : n < 16) : (digit n).toLower = digit n := by
  revert h
  revert n
  decide

theorem range_of_isDigit {c : Char} (h : isDigit c = true) : 48 ≤ c.toNat ∧ c.toNat ≤ 102 := by
  rw [isDigit, digitValue?_eq] at h
  by_contra hc
  rw [if_neg (by omega), if_neg (by omega), if_neg (by omega)] at h
  simp at h

theorem dropWhile_digit_cons (h : n < 16) (digits : List Char) :
    (digit n :: digits).dropWhile (· == '0') =
      if n = 0 then digits.dropWhile (· == '0') else digit n :: digits := by
  rw [List.dropWhile_cons]
  simp only [beq_iff_eq, digit_eq_zero_iff h]

theorem value_dropWhile_zero (digits : List Char) :
    value (digits.dropWhile (· == '0')) = value digits := by
  induction digits with
  | nil => rfl
  | cons c digits ih =>
    rw [List.dropWhile_cons]
    split
    · rename_i hc
      rw [ih, eq_of_beq hc]
      rfl
    · rfl

theorem signedValue?_of_digits (hd : digits.all isDigit = true) (hn : digits ≠ []) :
    signedValue? digits = some (value digits) := by
  unfold signedValue?
  split
  · rename_i digits
    rw [List.all_cons] at hd
    exact absurd hd (by simp [isDigit, digitValue?])
  · simp [hd, hn]

theorem signedValue?_byteText (byte : UInt8) : signedValue? (byteText byte) = some byte.toNat := by
  have hh : byte.toNat / 16 < 16 := by
    have := byte.toNat_lt
    omega
  have hl : byte.toNat % 16 < 16 := Nat.mod_lt _ (by decide)
  rw [byteText, signedValue?_of_digits (by simp [isDigit_digit, hh, hl]) (by simp)]
  simp only [value, List.foldl_cons, List.foldl_nil, digitValue?_digit hh, digitValue?_digit hl,
    Option.getD_some]
  congr 1
  omega

theorem signedValue?_plus (digits : List Char) : signedValue? ('+' :: digits) =
    if !digits.isEmpty && digits.all isDigit then some (value digits) else none := rfl

theorem signedValue?_of_ne {c : Char} (hc : c ≠ '+') (digits : List Char) :
    signedValue? (c :: digits) =
      if isDigit c && digits.all isDigit then some (value (c :: digits)) else none := by
  unfold signedValue?
  split
  · rename_i he
    exact absurd (List.cons.inj he).1 hc
  · simp

theorem exists_signedValue?_iff {c : Char} (hn : digits ≠ []) :
    (∃ n, signedValue? (c :: digits) = some n) ↔
      (isDigit c = true ∨ c = '+') ∧ digits.all isDigit = true := by
  by_cases hc : c = '+'
  · subst hc
    simp [signedValue?_plus, hn]
  · simp [signedValue?_of_ne hc, hc]

/-- Two characters are read as two digits, or as one digit with a sign before it. -/
theorem signedValue?_pair {c d : Char} {n : Nat} :
    signedValue? [c, d] = some n ↔
      (∃ h l, digitValue? c = some h ∧ digitValue? d = some l ∧ 16 * h + l = n) ∨
        (c = '+' ∧ digitValue? d = some n) := by
  by_cases hc : c = '+'
  · subst hc
    have hp : digitValue? '+' = none := rfl
    have hs : signedValue? ['+', d] = if isDigit d then some (value [d]) else none := by
      simp [signedValue?_plus]
    rw [hs, isDigit, value, List.foldl_cons, List.foldl_nil]
    cases digitValue? d <;> simp [hp]
  · have hs : signedValue? [c, d] =
        if isDigit c && isDigit d then some (value [c, d]) else none := by
      simp [signedValue?_of_ne hc]
    rw [hs, isDigit, isDigit, value, List.foldl_cons, List.foldl_cons, List.foldl_nil]
    cases digitValue? c <;> cases digitValue? d <;> simp [hc, Nat.mul_comm]

end Lockstep.Hex
