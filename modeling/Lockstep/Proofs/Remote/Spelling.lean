import Lockstep.Proofs.Remote.Flaws

namespace Lockstep.Frame

def lowerCase (byte : UInt8) : UInt8 :=
  if 0x41 ≤ byte.toNat ∧ byte.toNat ≤ 0x5a then byte + 0x20 else byte

def zeroDigit : UInt8 := 0x30

/-- The frame of a text, up to the letter case of the two checksum digits. -/
def Recased (text : String) (frame : List UInt8) : Prop :=
  ∃ high low, frame = framed text high low ∧
    Text.utf8 (ofText text) = framed text (lowerCase high) (lowerCase low)

/-- The frame of a text with a plus sign for its first checksum digit, which is a zero, and up to
the letter case of the second one. -/
def Signed (text : String) (frame : List UInt8) : Prop :=
  ∃ low, frame = framed text plus low ∧
    Text.utf8 (ofText text) = framed text zeroDigit (lowerCase low)

variable {byte high low high' low' : UInt8} {n : Nat} {text : String} {frame : List UInt8}

theorem toNat_digitByte (h : n < 16) :
    (digitByte n).toNat = if n < 10 then 0x30 + n else 0x61 + (n - 10) := by
  revert h
  revert n
  decide

theorem toNat_lowerCase (byte : UInt8) :
    (lowerCase byte).toNat =
      if 0x41 ≤ byte.toNat ∧ byte.toNat ≤ 0x5a then byte.toNat + 0x20 else byte.toNat := by
  unfold lowerCase
  split
  · have hs : (0x20 : UInt8).toNat = 0x20 := rfl
    rw [UInt8.toNat_add, hs, Nat.mod_eq_of_lt (by omega)]
  · rfl

theorem digit_iff (h : n < 16) : Digit byte n ↔ lowerCase byte = digitByte n := by
  rw [← UInt8.toNat_inj, toNat_lowerCase, toNat_digitByte h]
  constructor
  · intro hd
    cases hd with
    | decimal hn hb => rw [if_neg (by omega), if_pos hn, hb]
    | lower hn hb => rw [if_neg (by omega), if_neg (by omega), hb, Nat.add_sub_cancel_left]
    | upper hn hb =>
      rw [if_pos (by omega), if_neg (by omega), hb]
      omega
  · intro he
    by_cases hn : n < 10
    · rw [if_pos hn] at he
      split at he
      · omega
      · exact .decimal hn he
    · obtain ⟨k, rfl⟩ := Nat.exists_eq_add_of_le (Nat.le_of_not_lt hn)
      rw [if_neg hn, Nat.add_sub_cancel_left] at he
      split at he
      · exact .upper (by omega) (by omega)
      · exact .lower (by omega) he

theorem trailer_iff (h : n < 256) :
    Trailer high low n ↔
      (lowerCase high = digitByte (n / 16) ∧ lowerCase low = digitByte (n % 16)) ∨
        (high = plus ∧ n < 16 ∧ lowerCase low = digitByte n) := by
  rw [← digit_iff (by omega), ← digit_iff (by omega)]
  constructor
  · intro ht
    cases ht with
    | @digits _ _ first second hh hl =>
      have hlt := hl.lt
      have hd : (16 * first + second) / 16 = first := by omega
      have hm : (16 * first + second) % 16 = second := by omega
      rw [hd, hm]
      exact .inl ⟨hh, hl⟩
    | signed hl => exact .inr ⟨rfl, hl.lt, (digit_iff hl.lt).mp hl⟩
  · rintro (⟨hh, hl⟩ | ⟨rfl, hn, hl⟩)
    · have ht := Trailer.digits hh hl
      rwa [Nat.div_add_mod] at ht
    · exact .signed ((digit_iff hn).mpr hl)

theorem framed_inj : framed text high low = framed text high' low' ↔ high = high' ∧ low = low' := by
  simp [framed]

theorem length_framed (text : String) (high low : UInt8) :
    (framed text high low).length = (Text.utf8 text).length + 4 := by
  simp [framed]

theorem recased_framed_iff :
    Recased text (framed text high low) ↔
      lowerCase high = digitByte ((checksum (Text.utf8 text)).toNat / 16) ∧
        lowerCase low = digitByte ((checksum (Text.utf8 text)).toNat % 16) := by
  constructor
  · rintro ⟨high', low', hf, he⟩
    obtain ⟨rfl, rfl⟩ := framed_inj.mp hf
    rw [utf8_ofText, framed_inj] at he
    exact ⟨he.1.symm, he.2.symm⟩
  · rintro ⟨hh, hl⟩
    exact ⟨high, low, rfl, by rw [utf8_ofText, hh, hl]⟩

theorem digitByte_eq_zeroDigit_iff (h : n < 16) : digitByte n = zeroDigit ↔ n = 0 := by
  revert h
  revert n
  decide

theorem signed_framed_iff :
    Signed text (framed text high low) ↔
      high = plus ∧ (checksum (Text.utf8 text)).toNat < 16 ∧
        lowerCase low = digitByte (checksum (Text.utf8 text)).toNat := by
  have hlt := (checksum (Text.utf8 text)).toNat_lt
  constructor
  · rintro ⟨low', hf, he⟩
    obtain ⟨rfl, rfl⟩ := framed_inj.mp hf
    rw [utf8_ofText, framed_inj, digitByte_eq_zeroDigit_iff (by omega)] at he
    have hn : (checksum (Text.utf8 text)).toNat < 16 := by omega
    rw [Nat.mod_eq_of_lt hn] at he
    exact ⟨rfl, hn, he.2.symm⟩
  · rintro ⟨rfl, hn, hl⟩
    refine ⟨low, rfl, ?_⟩
    have hz : digitByte ((checksum (Text.utf8 text)).toNat / 16) = zeroDigit :=
      (digitByte_eq_zeroDigit_iff (by omega)).mpr (by omega)
    rw [utf8_ofText, hz, hl, Nat.mod_eq_of_lt hn]

theorem trailer_total_iff :
    Trailer high low (total (Text.utf8 text) % 256) ↔
      Recased text (framed text high low) ∨ Signed text (framed text high low) := by
  rw [← toNat_checksum, trailer_iff (checksum (Text.utf8 text)).toNat_lt, recased_framed_iff,
    signed_framed_iff]

theorem Recased.exists_framed (h : Recased text frame) : ∃ high low, frame = framed text high low := by
  obtain ⟨high, low, hf, -⟩ := h
  exact ⟨high, low, hf⟩

theorem Signed.exists_framed (h : Signed text frame) : ∃ high low, frame = framed text high low := by
  obtain ⟨low, hf, -⟩ := h
  exact ⟨plus, low, hf⟩

theorem Signed.not_recased (h : Signed text frame) : ¬ Recased text frame := by
  obtain ⟨low, rfl, -⟩ := h
  intro hr
  have hlt := (checksum (Text.utf8 text)).toNat_lt
  have hp : ∀ n < 16, lowerCase plus ≠ digitByte n := by decide
  exact hp _ (by omega) (recased_framed_iff.mp hr).1

theorem exists_signed_iff : (∃ frame, Signed text frame) ↔ (checksum (Text.utf8 text)).toNat < 16 := by
  constructor
  · rintro ⟨frame, low, rfl, he⟩
    exact (signed_framed_iff.mp ⟨low, rfl, he⟩).2.1
  · intro hn
    have hl : ∀ n < 16, lowerCase (digitByte n) = digitByte n := by decide
    exact ⟨_, signed_framed_iff.mpr ⟨rfl, hn, hl _ hn⟩⟩

/-- What is read as a text is the frame of that text behind acknowledgements, with its checksum
digits in either letter case, or with a plus sign for a leading zero. The sign is possible for
exactly the texts whose checksum begins with a zero, and it is more than a change of case. -/
theorem takes_ok_iff_respelled (source : Source) (count : Nat) (text : String) :
    (Takes source count (.ok text) ↔ Fits text ∧ ∃ acks frame rest,
      source.bytes = List.replicate acks plus ++ (frame ++ rest) ∧
      count = acks + frame.length ∧ (Recased text frame ∨ Signed text frame)) ∧
    ((∃ frame, Signed text frame) ↔ (checksum (Text.utf8 text)).toNat < 16) ∧
    ∀ frame, Signed text frame → ¬ Recased text frame := by
  refine ⟨?_, exists_signed_iff, fun _ h ↦ h.not_recased⟩
  rw [takes_ok_iff]
  constructor
  · rintro ⟨acks, high, low, rest, hb, hc, hbody, ht⟩
    refine ⟨isBody_utf8_iff.mp hbody, acks, framed text high low, rest, hb, ?_,
      trailer_total_iff.mp ht⟩
    rw [hc, length_framed]
  · rintro ⟨hf, acks, frame, rest, hb, hc, hs⟩
    obtain ⟨high, low, rfl⟩ := hs.elim Recased.exists_framed Signed.exists_framed
    rw [length_framed] at hc
    exact ⟨acks, high, low, rest, hb, hc, isBody_utf8_iff.mpr hf, trailer_total_iff.mpr hs⟩

theorem sign_taken_for_zero :
    let frame := [dollar, hash, plus, zeroDigit]
    Takes ⟨frame, none⟩ frame.length (.ok "") ∧
      Text.utf8 (ofText "") = [dollar, hash, zeroDigit, zeroDigit] ∧ ¬ Recased "" frame := by
  have he : Text.utf8 (ofText "") = framed "" zeroDigit zeroDigit := by decide
  have hs : Signed "" (framed "" plus zeroDigit) := ⟨zeroDigit, rfl, he⟩
  refine ⟨?_, he, hs.not_recased⟩
  exact takes_ok_iff.mpr ⟨0, plus, zeroDigit, [], rfl, rfl, isBody_utf8_iff.mpr (by decide),
    trailer_total_iff.mpr (.inr hs)⟩

end Lockstep.Frame
