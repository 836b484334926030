import Lockstep.Proofs.Text.Digits
import Mathlib.Algebra.Group.Nat.Defs
import Mathlib.Data.List.Induction

namespace Lockstep.Hex

inductive Denotes (c : Char) : Nat → Prop
  | decimal {n : Nat} (hn : n < 10) (hc : c.toNat = '0'.toNat + n) : Denotes c n
  | lower {n : Nat} (hn : n < 6) (hc : c.toNat = 'a'.toNat + n) : Denotes c (10 + n)
  | upper {n : Nat} (hn : n < 6) (hc : c.toNat = 'A'.toNat + n) : Denotes c (10 + n)

/-- A nonempty text of digits and the number that it writes in base sixteen. -/
inductive Writes : List Char → Nat → Prop
  | digit {c : Char} {n : Nat} (hc : Denotes c n) : Writes [c] n
  | concat {digits : List Char} {c : Char} {m n : Nat} (hd : Writes digits m) (hc : Denotes c n) :
      Writes (digits ++ [c]) (16 * m + n)

variable {c : Char} {n : Nat} {digits : List Char}

theorem digitValue?_eq_some_iff : digitValue? c = some n ↔ Denotes c n := by
  have h₀ : '0'.toNat = 0x30 := rfl
  have ha : 'a'.toNat = 0x61 := rfl
  have hA : 'A'.toNat = 0x41 := rfl
  rw [digitValue?_eq]
  constructor
  · intro h
    split_ifs at h with hd hl hu
    · obtain rfl := Option.some.inj h
      exact .decimal (by omega) (by omega)
    · obtain rfl := Option.some.inj h
      rw [Nat.add_comm]
      exact .lower (by omega) (by omega)
    · obtain rfl := Option.some.inj h
      rw [Nat.add_comm]
      exact .upper (by omega) (by omega)
  · intro h
    cases h with
    | decimal hn hc => rw [if_pos (by omega), hc, h₀, Nat.add_sub_cancel_left]
    | lower hn hc =>
      rw [if_neg (by omega), if_pos (by omega), hc, ha, Nat.add_sub_cancel_left, Nat.add_comm]
    | upper hn hc =>
      rw [if_neg (by omega), if_neg (by omega), if_pos (by omega), hc, hA,
        Nat.add_sub_cancel_left, Nat.add_comm]

theorem Denotes.eq_zero (h : Denotes c n) (hn : n = 0) : c = '0' := by
  cases h with
  | decimal _ hc =>
    subst hn
    exact Char.toNat_inj.mp hc
  | lower => omega
  | upper => omega

theorem value_concat (digits : List Char) (c : Char) :
    value (digits ++ [c]) = 16 * value digits + (digitValue? c).getD 0 := by
  rw [value, List.foldl_append, Nat.mul_comm]
  rfl

theorem writes_iff :
    Writes digits n ↔ digits ≠ [] ∧ digits.all isDigit = true ∧ value digits = n := by
  constructor
  · intro h
    induction h with
    | @digit c n hc =>
      rw [← digitValue?_eq_some_iff] at hc
      simp [value, isDigit, hc]
    | @concat digits c m n _ hc ih =>
      obtain ⟨-, hall, hv⟩ := ih
      rw [← digitValue?_eq_some_iff] at hc
      simp [value_concat, hall, hv, isDigit, hc]
  · rintro ⟨hne, hall, rfl⟩
    -- The value grows with each digit at the end, so that is where the induction takes them off.
    induction digits using List.reverseRecOn with
    | nil => exact absurd rfl hne
    | append_singleton digits c ih =>
      rw [List.all_append, Bool.and_eq_true] at hall
      obtain ⟨hd, hc⟩ := hall
      have hc : ∃ d, digitValue? c = some d := by
        simpa [isDigit, Option.isSome_iff_exists] using hc
      obtain ⟨d, hc⟩ := hc
      have hw := digitValue?_eq_some_iff.mp hc
      rw [value_concat, hc, Option.getD_some]
      by_cases he : digits = []
      · have hv : 16 * value digits + d = d := by rw [he]; exact Nat.zero_add d
        rw [hv, he]
        exact .digit hw
      · exact .concat (ih he hd) hw

theorem value_lt (digits : List Char) : value digits < 16 ^ digits.length := by
  induction digits using List.reverseRecOn with
  | nil => decide
  | append_singleton digits c ih =>
    have hc : (digitValue? c).getD 0 < 16 := by
      cases h : digitValue? c with
      | none => decide
      | some d => exact digitValue?_lt h
    rw [value_concat, List.length_append, List.length_singleton, Nat.pow_succ]
    omega

theorem le_value (hc : isDigit c = true) (hz : c ≠ '0') (digits : List Char) :
    16 ^ digits.length ≤ value (c :: digits) := by
  induction digits using List.reverseRecOn with
  | nil =>
    obtain ⟨d, hd⟩ := Option.isSome_iff_exists.mp hc
    have hv : value [c] = d := by simp [value, hd]
    have hpos : d ≠ 0 := fun h ↦ hz ((digitValue?_eq_some_iff.mp hd).eq_zero h)
    rw [hv, List.length_nil]
    omega
  | append_singleton digits d ih =>
    rw [← List.cons_append, value_concat, List.length_append, List.length_singleton, Nat.pow_succ]
    omega

theorem all_isDigit_dropWhile (hd : digits.all isDigit = true) (p : Char → Bool) :
    (digits.dropWhile p).all isDigit = true := by
  rw [List.all_eq_true] at hd ⊢
  exact fun c hc ↦ hd c ((List.dropWhile_sublist p).subset hc)

theorem length_dropWhile_zero_le_iff (hd : digits.all isDigit = true) (k : Nat) :
    (digits.dropWhile (· == '0')).length ≤ k ↔ value digits < 16 ^ k := by
  have hall := all_isDigit_dropWhile hd (· == '0')
  rw [← value_dropWhile_zero]
  constructor
  · intro hk
    exact Nat.lt_of_lt_of_le (value_lt _) (Nat.pow_le_pow_right (by decide) hk)
  · intro hv
    cases hs : digits.dropWhile (· == '0') with
    | nil => exact Nat.zero_le k
    | cons c rest =>
      have hz : c ≠ '0' := by
        have := List.head?_dropWhile_not (· == '0') digits
        rw [hs] at this
        simpa using this
      rw [hs, List.all_cons, Bool.and_eq_true] at hall
      rw [hs] at hv
      have hlt := Nat.lt_of_le_of_lt (le_value hall.1 hz rest) hv
      exact (Nat.pow_lt_pow_iff_right (by decide)).mp hlt

end Lockstep.Hex
