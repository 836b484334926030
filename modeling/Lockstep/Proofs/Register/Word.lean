import Lockstep.Proofs.Register.Value
import Lockstep.Register.Basic
import Mathlib.Data.List.DropRight

namespace Lockstep

namespace Register

theorem ofName?_eq_some_iff {name : List Char} {register : Register} :
    ofName? name = some register ↔ register.name.toList = name := by
  constructor
  · intro h
    rw [ofName?] at h
    simpa using List.find?_some h
  · rintro rfl
    exact ofName?_name register

theorem eq_of_name_toList {a b : Register} (h : a.name.toList = b.name.toList) : a = b := by
  have ha := ofName?_name a
  rw [h, ofName?_name] at ha
  exact (Option.some.inj ha).symm

theorem printable_of_mem_name (register : Register) {c : Char} (h : c ∈ register.name.toList) :
    33 ≤ c.toNat ∧ c.toNat < 127 := by
  have hall : register.name.toList.all (fun c ↦ 33 ≤ c.toNat ∧ c.toNat < 127) = true := by
    cases register <;> rfl
  exact of_decide_eq_true (List.all_eq_true.mp hall c h)

end Register

namespace Word

variable (word : Word)

theorem isDigit_of_mem_fullText {c : Char} (h : c ∈ word.fullText) : Hex.isDigit c = true := by
  have hw := word.toNat_lt
  simp only [fullText, List.mem_cons, List.not_mem_nil, or_false] at h
  rcases h with rfl | rfl | rfl | rfl
  all_goals
    apply Hex.isDigit_digit
    omega

theorem value_fullText : Hex.value word.fullText = word.toNat := by
  have hw := word.toNat_lt
  simp only [fullText, Hex.value, List.foldl_cons, List.foldl_nil]
  rw [Hex.digitValue?_digit (by omega), Hex.digitValue?_digit (by omega),
    Hex.digitValue?_digit (by omega), Hex.digitValue?_digit (by omega)]
  simp only [Option.getD_some]
  omega

theorem shortText_ne_nil : word.shortText ≠ [] := by
  unfold shortText
  split <;> simp_all

theorem dropWhile_shortText :
    word.shortText.dropWhile (· == '0') = word.fullText.dropWhile (· == '0') := by
  unfold shortText
  split
  · rename_i h
    rw [h]
    rfl
  · exact List.dropWhile_idempotent ..

theorem isDigit_of_mem_shortText {c : Char} (h : c ∈ word.shortText) : Hex.isDigit c = true := by
  unfold shortText at h
  split at h
  · rw [List.mem_singleton.mp h]
    rfl
  · exact word.isDigit_of_mem_fullText ((List.dropWhile_sublist _).subset h)

theorem length_shortText_le : word.shortText.length ≤ 4 := by
  unfold shortText
  split
  · simp
  · exact (List.dropWhile_sublist (l := word.fullText) _).length_le

theorem parse_of_digits {digits : List Char} (hd : ∀ c ∈ digits, Hex.isDigit c = true)
    (hn : digits ≠ []) (hl : digits.length ≤ 4) :
    parse ('0' :: 'x' :: digits) = .ok (UInt16.ofNat (Hex.value digits)) := by
  have hw : Hex.Writes digits (Hex.value digits) :=
    Hex.writes_iff.mpr ⟨hn, List.all_eq_true.mpr hd, rfl⟩
  have hv : Hex.value digits < 16 ^ 4 :=
    Nat.lt_of_lt_of_le (Hex.value_lt digits) (Nat.pow_le_pow_right (by decide) hl)
  exact parse_of_writes hw (Nat.le_of_lt_succ hv)

theorem parse_shortText : parse ('0' :: 'x' :: word.shortText) = .ok word := by
  have hv : Hex.value word.shortText = word.toNat := by
    rw [← Hex.value_dropWhile_zero, dropWhile_shortText, Hex.value_dropWhile_zero, value_fullText]
  rw [parse_of_digits (fun _ ↦ word.isDigit_of_mem_shortText) word.shortText_ne_nil
    word.length_shortText_le, hv, UInt16.ofNat_toNat]

theorem parse_fullText : parse ('0' :: 'x' :: word.fullText) = .ok word := by
  rw [parse_of_digits (fun _ ↦ word.isDigit_of_mem_fullText) (by simp [fullText])
    (by simp [fullText]), value_fullText, UInt16.ofNat_toNat]

theorem shortText_eq_toDigits : word.shortText = Nat.toDigits 16 word.toNat := by
  have hw := word.toNat_lt
  generalize hn : word.toNat = n at hw
  have hf : word.fullText = [Hex.digit (n / 4096), Hex.digit (n / 256 % 16),
      Hex.digit (n / 16 % 16), Hex.digit (n % 16)] := by
    rw [fullText, hn]
  have hd : ∀ k, 16 ≤ k → Nat.toDigits 16 k = Nat.toDigits 16 (k / 16) ++ [Hex.digit (k % 16)] := by
    intro k hk
    rw [Nat.toDigits_of_base_le (by decide) hk, Hex.digit_eq_digitChar (by omega)]
  have hs : ∀ k, k < 16 → Nat.toDigits 16 k = [Hex.digit k] := by
    intro k hk
    rw [Nat.toDigits_of_lt_base hk, Hex.digit_eq_digitChar hk]
  have h256 : n / 16 / 16 = n / 256 := Nat.div_div_eq_div_mul ..
  have h4096 : n / 256 / 16 = n / 4096 := Nat.div_div_eq_div_mul ..
  unfold shortText
  rw [hf, Hex.dropWhile_digit_cons (by omega), Hex.dropWhile_digit_cons (by omega),
    Hex.dropWhile_digit_cons (by omega), Hex.dropWhile_digit_cons (by omega), List.dropWhile_nil]
  by_cases h₁ : n < 16
  · rw [hs n h₁, if_pos (by omega), if_pos (by omega), if_pos (by omega)]
    by_cases h₀ : n = 0
    · subst h₀
      rfl
    · rw [if_neg (by omega), Nat.mod_eq_of_lt h₁]
  rw [hd n (by omega)]
  by_cases h₂ : n < 256
  · rw [hs _ (by omega), if_pos (by omega), if_pos (by omega), if_neg (by omega),
      Nat.mod_eq_of_lt (a := n / 16) (by omega)]
    rfl
  rw [hd _ (by omega), h256]
  by_cases h₃ : n < 4096
  · rw [hs _ (by omega), if_pos (by omega), if_neg (by omega),
      Nat.mod_eq_of_lt (a := n / 256) (by omega)]
    rfl
  rw [hd _ (by omega), h4096, hs _ (by omega), if_neg (by omega)]
  rfl

theorem swapBytes_ofNat :
    swapBytes (UInt16.ofNat (word.toNat % 256 * 256 + word.toNat / 256)) = word := by
  have hw := word.toNat_lt
  have hv : (UInt16.ofNat (word.toNat % 256 * 256 + word.toNat / 256)).toNat =
      word.toNat % 256 * 256 + word.toNat / 256 := by
    rw [UInt16.toNat_ofNat', Nat.mod_eq_of_lt (by omega)]
  have hor : word.toNat % 256 ||| (word.toNat / 256) <<< 8 = word.toNat := by
    rw [Nat.or_comm, ← Nat.shiftLeft_add_eq_or_of_lt (by omega), Nat.shiftLeft_eq]
    omega
  rw [← UInt16.toNat_inj, swapBytes, UInt16.toNat_or, UInt16.toNat_shiftRight,
    UInt16.toNat_shiftLeft, hv]
  have h8 : UInt16.toNat 8 % 16 = 8 := rfl
  rw [h8, Nat.shiftRight_eq_div_pow, Nat.shiftLeft_eq]
  have hlow : (word.toNat % 256 * 256 + word.toNat / 256) / 2 ^ 8 = word.toNat % 256 := by
    omega
  have hhigh : (word.toNat % 256 * 256 + word.toNat / 256) * 2 ^ 8 % 2 ^ 16 =
      (word.toNat / 256) <<< 8 := by
    rw [Nat.shiftLeft_eq]
    omega
  rw [hlow, hhigh, hor]

end Word

end Lockstep
