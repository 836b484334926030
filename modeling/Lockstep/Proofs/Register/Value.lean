import Lockstep.Proofs.Text.Numerals
import Lockstep.Register.Word

namespace Lockstep.Word

/-- What is left of a text without one mark, if it starts with one. -/
inductive Unmarked : List Char → List Char → Prop
  | lower (digits : List Char) : Unmarked ('0' :: 'x' :: digits) digits
  | upper (digits : List Char) : Unmarked ('0' :: 'X' :: digits) digits
  | bare {text : List Char} (hl : ∀ digits, text ≠ '0' :: 'x' :: digits)
      (hu : ∀ digits, text ≠ '0' :: 'X' :: digits) : Unmarked text text

variable {text digits : List Char} {n : Nat}

theorem unmarked_iff : Unmarked text digits ↔ digits = dropMark text := by
  constructor
  · intro h
    cases h with
    | lower => rfl
    | upper => rfl
    | bare hl hu =>
      unfold dropMark
      split
      · exact absurd rfl (hl _)
      · exact absurd rfl (hu _)
      · rfl
  · rintro rfl
    unfold dropMark
    split
    · exact .lower _
    · exact .upper _
    · rename_i hl hu
      exact .bare hl hu

theorem ofDigits?_of_writes (h : Hex.Writes digits n) (hn : n ≤ 65535) :
    ofDigits? digits = some (UInt16.ofNat n) := by
  obtain ⟨hne, hd, rfl⟩ := Hex.writes_iff.mp h
  rw [ofDigits?, Hex.signedValue?_of_digits hd hne, Option.bind_some]
  exact if_pos (Nat.lt_succ_of_le hn)

theorem writes_dropWhile_zero (h : Hex.Writes digits n) (hne : digits.dropWhile (· == '0') ≠ []) :
    Hex.Writes (digits.dropWhile (· == '0')) n := by
  obtain ⟨-, hd, rfl⟩ := Hex.writes_iff.mp h
  exact Hex.writes_iff.mpr ⟨hne, Hex.all_isDigit_dropWhile hd _, Hex.value_dropWhile_zero digits⟩

theorem length_significant_iff (h : Hex.Writes digits n) :
    (digits.dropWhile (· == '0')).length > 4 ↔ 65535 < n := by
  obtain ⟨-, hd, rfl⟩ := Hex.writes_iff.mp h
  have hl := Hex.length_dropWhile_zero_le_iff hd 4
  omega

theorem not_writes_iff :
    (digits.isEmpty || !digits.all Hex.isDigit) = true ↔ ∀ n, ¬ Hex.Writes digits n := by
  rw [Bool.or_eq_true, List.isEmpty_iff, Bool.not_eq_true']
  constructor
  · intro h n hw
    obtain ⟨hne, hd, -⟩ := Hex.writes_iff.mp hw
    rcases h with h | h
    · exact hne h
    · exact Bool.false_ne_true (h.symm.trans hd)
  · intro h
    by_contra hg
    rw [not_or, Bool.not_eq_false] at hg
    exact h _ (Hex.writes_iff.mpr ⟨hg.1, hg.2, rfl⟩)

theorem parse_of_not_writes (h : ∀ n, ¬ Hex.Writes (dropMark text) n) :
    parse text = .error (.invalidHex (String.ofList text)) := by
  rw [parse, if_pos (not_writes_iff.mpr h)]

theorem parse_of_large (h : Hex.Writes (dropMark text) n) (hn : 65535 < n) :
    parse text = .error (.outOfRange (String.ofList text)) := by
  rw [parse, if_neg fun hg ↦ not_writes_iff.mp hg n h, if_pos ((length_significant_iff h).mpr hn)]

theorem parse_of_writes (h : Hex.Writes (dropMark text) n) (hn : n ≤ 65535) :
    parse text = .ok (UInt16.ofNat n) := by
  have hl : ¬ ((dropMark text).dropWhile (· == '0')).length > 4 := by
    rw [length_significant_iff h]
    exact Nat.not_lt.mpr hn
  rw [parse, if_neg fun hg ↦ not_writes_iff.mp hg n h, if_neg hl]
  by_cases he : (dropMark text).dropWhile (· == '0') = []
  · obtain ⟨-, -, rfl⟩ := Hex.writes_iff.mp h
    rw [he, ← Hex.value_dropWhile_zero, he]
    rfl
  · rw [if_neg (by simpa using he), ofDigits?_of_writes (writes_dropWhile_zero h he) hn]

theorem parse_cases (text : List Char) :
    (∃ n, Hex.Writes (dropMark text) n ∧ n ≤ 65535 ∧ parse text = .ok (UInt16.ofNat n)) ∨
    (∃ n, Hex.Writes (dropMark text) n ∧ 65535 < n ∧
      parse text = .error (.outOfRange (String.ofList text))) ∨
    (∀ n, ¬ Hex.Writes (dropMark text) n) ∧
      parse text = .error (.invalidHex (String.ofList text)) := by
  by_cases hw : ∃ n, Hex.Writes (dropMark text) n
  · obtain ⟨n, hw⟩ := hw
    rcases Nat.lt_or_ge 65535 n with hn | hn
    · exact .inr (.inl ⟨n, hw, hn, parse_of_large hw hn⟩)
    · exact .inl ⟨n, hw, hn, parse_of_writes hw hn⟩
  · rw [not_exists] at hw
    exact .inr (.inr ⟨hw, parse_of_not_writes hw⟩)

theorem exists_parse_iff :
    (∃ word, parse text = .ok word ∧ word.toNat = n) ↔
      Hex.Writes (dropMark text) n ∧ n ≤ 65535 := by
  constructor
  · rintro ⟨word, h, rfl⟩
    obtain ⟨m, hw, hm, hp⟩ | ⟨m, -, -, hp⟩ | ⟨-, hp⟩ := parse_cases text
    · obtain rfl := Except.ok.inj (hp.symm.trans h)
      rw [UInt16.toNat_ofNat_of_lt' (Nat.lt_succ_of_le hm)]
      exact ⟨hw, hm⟩
    · cases hp.symm.trans h
    · cases hp.symm.trans h
  · rintro ⟨hw, hn⟩
    exact ⟨_, parse_of_writes hw hn, UInt16.toNat_ofNat_of_lt' (Nat.lt_succ_of_le hn)⟩

theorem parse_eq_outOfRange_iff :
    parse text = .error (.outOfRange (String.ofList text)) ↔
      ∃ n, Hex.Writes (dropMark text) n ∧ 65535 < n := by
  constructor
  · intro h
    obtain ⟨m, -, -, hp⟩ | ⟨m, hw, hm, -⟩ | ⟨-, hp⟩ := parse_cases text
    · cases hp.symm.trans h
    · exact ⟨m, hw, hm⟩
    · cases hp.symm.trans h
  · rintro ⟨n, hw, hn⟩
    exact parse_of_large hw hn

theorem parse_eq_invalidHex_iff :
    parse text = .error (.invalidHex (String.ofList text)) ↔
      ∀ n, ¬ Hex.Writes (dropMark text) n := by
  constructor
  · intro h
    obtain ⟨m, -, -, hp⟩ | ⟨m, -, -, hp⟩ | ⟨hw, -⟩ := parse_cases text
    · cases hp.symm.trans h
    · cases hp.symm.trans h
    · exact hw
  · exact parse_of_not_writes

/-- A value is read exactly if it is a numeral of a number that fits, and then it is that number:
a larger number is refused as such, and every other text as no numeral. When the digits behind the
leading zeros are converted, the conversion succeeds. -/
theorem parse_exact (text : List Char) :
    ∃ digits, (∀ rest, Unmarked text rest ↔ rest = digits) ∧
      (∀ n, (∃ word, parse text = .ok word ∧ word.toNat = n) ↔ Hex.Writes digits n ∧ n ≤ 65535) ∧
      (parse text = .error (.outOfRange (String.ofList text)) ↔
        ∃ n, Hex.Writes digits n ∧ 65535 < n) ∧
      (parse text = .error (.invalidHex (String.ofList text)) ↔ ∀ n, ¬ Hex.Writes digits n) ∧
      ∀ n, Hex.Writes digits n → (digits.dropWhile (· == '0')).length ≤ 4 →
        digits.dropWhile (· == '0') ≠ [] →
        ∃ word, ofDigits? (digits.dropWhile (· == '0')) = some word ∧ word.toNat = n := by
  refine ⟨dropMark text, fun rest ↦ unmarked_iff, fun n ↦ exists_parse_iff,
    parse_eq_outOfRange_iff, parse_eq_invalidHex_iff, ?_⟩
  intro n hw hl hne
  have hn : n ≤ 65535 := by
    rwa [← Nat.not_lt, ← length_significant_iff hw, Nat.not_lt]
  exact ⟨_, ofDigits?_of_writes (writes_dropWhile_zero hw hne) hn,
    UInt16.toNat_ofNat_of_lt' (Nat.lt_succ_of_le hn)⟩

example : parse "0x0x1".toList = .error (.invalidHex "0x0x1") := rfl

end Lockstep.Word
