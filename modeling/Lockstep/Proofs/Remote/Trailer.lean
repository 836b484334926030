import Lockstep.Proofs.Remote.Framing
import Lockstep.Proofs.Text.Numerals

namespace Lockstep.Frame

def total : List UInt8 → Nat
  | [] => 0
  | byte :: bytes => byte.toNat + total bytes

theorem toNat_foldl_add (bytes : List UInt8) (start : UInt8) :
    (bytes.foldl (· + ·) start).toNat = (start.toNat + total bytes) % 256 := by
  induction bytes generalizing start with
  | nil => simp [total, Nat.mod_eq_of_lt start.toNat_lt]
  | cons byte bytes ih =>
    rw [List.foldl_cons, ih, UInt8.toNat_add, total]
    omega

theorem toNat_checksum (bytes : List UInt8) : (checksum bytes).toNat = total bytes % 256 := by
  rw [checksum, toNat_foldl_add]
  exact congrArg (· % 256) (Nat.zero_add _)

inductive Digit (byte : UInt8) : Nat → Prop
  | decimal {n : Nat} (hn : n < 10) (hb : byte.toNat = 0x30 + n) : Digit byte n
  | lower {n : Nat} (hn : n < 6) (hb : byte.toNat = 0x61 + n) : Digit byte (10 + n)
  | upper {n : Nat} (hn : n < 6) (hb : byte.toNat = 0x41 + n) : Digit byte (10 + n)

/-- The number that two bytes write: two digits, or a plus sign and one. -/
inductive Trailer : UInt8 → UInt8 → Nat → Prop
  | digits {high low : UInt8} {h l : Nat} (hh : Digit high h) (hl : Digit low l) :
      Trailer high low (16 * h + l)
  | signed {low : UInt8} {l : Nat} (hl : Digit low l) : Trailer plus low l

variable {byte high low : UInt8} {n : Nat}

theorem Digit.lt (h : Digit byte n) : n < 16 := by
  cases h <;> omega

theorem Trailer.lt (h : Trailer high low n) : n < 256 := by
  cases h with
  | digits hh hl =>
    have := hh.lt
    have := hl.lt
    omega
  | signed hl =>
    have := hl.lt
    omega

theorem digitValue?_eq_some_iff :
    Hex.digitValue? (Char.ofNat byte.toNat) = some n ↔ Digit byte n := by
  have hb := Text.toNat_ofNat_toNat byte
  rw [Hex.digitValue?_eq_some_iff]
  constructor
  · intro h
    cases h with
    | decimal hn hc => exact .decimal hn (hb.symm.trans hc)
    | lower hn hc => exact .lower hn (hb.symm.trans hc)
    | upper hn hc => exact .upper hn (hb.symm.trans hc)
  · intro h
    cases h with
    | decimal hn hc => exact .decimal hn (hb.trans hc)
    | lower hn hc => exact .lower hn (hb.trans hc)
    | upper hn hc => exact .upper hn (hb.trans hc)

theorem ofNat_eq_plus_iff : Char.ofNat byte.toNat = '+' ↔ byte = plus := by
  rw [← Char.toNat_inj, Text.toNat_ofNat_toNat, ← UInt8.toNat_inj]
  rfl

theorem trailerValue?_eq_some_iff {value : UInt8} :
    trailerValue? high low = some value ↔ Trailer high low value.toNat := by
  rw [trailerValue?, Option.map_eq_some_iff]
  constructor
  · rintro ⟨n, hn, rfl⟩
    have ht : Trailer high low n := by
      obtain ⟨h, l, hh, hl, rfl⟩ | ⟨hp, hl⟩ := Hex.signedValue?_pair.mp hn
      · exact .digits (digitValue?_eq_some_iff.mp hh) (digitValue?_eq_some_iff.mp hl)
      · obtain rfl := ofNat_eq_plus_iff.mp hp
        exact .signed (digitValue?_eq_some_iff.mp hl)
    rwa [UInt8.toNat_ofNat', Nat.mod_eq_of_lt ht.lt]
  · intro ht
    refine ⟨value.toNat, Hex.signedValue?_pair.mpr ?_, UInt8.ofNat_toNat⟩
    generalize value.toNat = n at ht
    cases ht with
    | digits hh hl =>
      exact .inl ⟨_, _, digitValue?_eq_some_iff.mpr hh, digitValue?_eq_some_iff.mpr hl, rfl⟩
    | signed hl => exact .inr ⟨ofNat_eq_plus_iff.mpr rfl, digitValue?_eq_some_iff.mpr hl⟩

theorem trailerValue?_eq_none_iff :
    trailerValue? high low = none ↔ ∀ n, ¬ Trailer high low n := by
  constructor
  · intro h n ht
    have hn : (UInt8.ofNat n).toNat = n := by rw [UInt8.toNat_ofNat', Nat.mod_eq_of_lt ht.lt]
    rw [← hn, ← trailerValue?_eq_some_iff, h] at ht
    cases ht
  · intro h
    by_contra hn
    obtain ⟨value, hv⟩ := Option.ne_none_iff_exists'.mp hn
    exact h _ (trailerValue?_eq_some_iff.mp hv)

end Lockstep.Frame
