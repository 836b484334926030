import Lockstep.Proofs.Remote.Table
import Lockstep.Proofs.Text.Ascii
import Lockstep.Remote.Frame

namespace Lockstep.RegisterBlock

def littleEndian (word : Word) : List Char :=
  Hex.byteText (UInt8.ofNat (word.toNat % 256)) ++ Hex.byteText (UInt8.ofNat (word.toNat / 256))

/-- The digits write the values one after the other, each digit in either letter case. -/
def Spells (digits : List Char) (words : List Word) : Prop :=
  digits.map Char.toLower = words.flatMap littleEndian

/-- The digits of all registers, and `x` for each digit of what else a target may have. -/
def ofRegisters (registers : Registers) (unavailable : Nat) : String :=
  String.ofList (registers.values.flatMap littleEndian ++ List.replicate unavailable 'x')

theorem isDigit_of_mem_littleEndian {word : Word} {c : Char} (h : c ∈ littleEndian word) :
    Hex.isDigit c = true := by
  simp only [littleEndian, Hex.byteText, List.mem_append, List.mem_cons, List.not_mem_nil,
    or_false] at h
  rcases h with (rfl | rfl) | (rfl | rfl)
  all_goals
    apply Hex.isDigit_digit
    have := (UInt8.ofNat (word.toNat % 256)).toNat_lt
    have := (UInt8.ofNat (word.toNat / 256)).toNat_lt
    omega

theorem value_littleEndian (word : Word) :
    Hex.value (littleEndian word) = word.toNat % 256 * 256 + word.toNat / 256 := by
  have hw := word.toNat_lt
  have hlow : (UInt8.ofNat (word.toNat % 256)).toNat = word.toNat % 256 := by
    rw [UInt8.toNat_ofNat', Nat.mod_eq_of_lt (by omega)]
  have hhigh : (UInt8.ofNat (word.toNat / 256)).toNat = word.toNat / 256 := by
    rw [UInt8.toNat_ofNat', Nat.mod_eq_of_lt (by omega)]
  simp only [littleEndian, Hex.byteText, hlow, hhigh, Hex.value, List.cons_append, List.nil_append,
    List.foldl_cons, List.foldl_nil]
  rw [Hex.digitValue?_digit (by omega), Hex.digitValue?_digit (by omega),
    Hex.digitValue?_digit (by omega), Hex.digitValue?_digit (by omega)]
  simp only [Option.getD_some]
  omega

theorem length_littleEndian (word : Word) : (littleEndian word).length = digitsPerRegister := rfl

theorem map_toLower_littleEndian (word : Word) :
    (littleEndian word).map Char.toLower = littleEndian word := by
  have hlow := (UInt8.ofNat (word.toNat % 256)).toNat_lt
  have hhigh := (UInt8.ofNat (word.toNat / 256)).toNat_lt
  simp only [littleEndian, Hex.byteText, List.map_append, List.map_cons, List.map_nil]
  rw [Hex.toLower_digit (by omega), Hex.toLower_digit (by omega), Hex.toLower_digit (by omega),
    Hex.toLower_digit (by omega)]

namespace Spells

variable {digits tail : List Char} {words : List Word} {word : Word}

theorem flatMap_littleEndian (words : List Word) : Spells (words.flatMap littleEndian) words := by
  rw [Spells, List.map_flatMap]
  simp only [map_toLower_littleEndian]

theorem exists_of_cons (h : Spells digits (word :: words)) :
    ∃ first rest, digits = first ++ rest ∧ Spells first [word] ∧ Spells rest words := by
  rw [Spells, List.flatMap_cons, List.map_eq_append_iff] at h
  obtain ⟨first, rest, hd, hf, hr⟩ := h
  exact ⟨first, rest, hd, by rw [Spells, hf, List.flatMap_singleton], hr⟩

theorem length_eq (h : Spells digits words) : digits.length = words.length * digitsPerRegister := by
  have hl := congrArg List.length h
  rw [List.length_map, List.length_flatMap] at hl
  simpa [length_littleEndian] using hl

theorem isDigit_of_mem (h : Spells digits words) {c : Char} (hc : c ∈ digits) :
    Hex.isDigit c = true := by
  have hm : c.toLower ∈ words.flatMap littleEndian := h ▸ List.mem_map_of_mem hc
  obtain ⟨word, -, hw⟩ := List.mem_flatMap.mp hm
  rw [← Hex.isDigit_toLower]
  exact isDigit_of_mem_littleEndian hw

theorem decodeOne_eq (h : Spells digits [word]) (register : Register) :
    decodeOne register digits = .ok (register, word) := by
  have hd : digits.all Hex.isDigit = true := List.all_eq_true.mpr fun c hc ↦ h.isDigit_of_mem hc
  have hl : digits.length = digitsPerRegister := h.length_eq
  have hn : digits ≠ [] := List.ne_nil_of_length_pos (hl ▸ by decide)
  rw [Spells, List.flatMap_singleton] at h
  rw [decodeOne, Hex.signedValue?_of_digits hd hn, ← Hex.value_map_toLower, h, value_littleEndian]
  dsimp only
  rw [Word.swapBytes_ofNat]

theorem decodeEach_eq {entries : List (Register × Word)} (h : Spells digits (entries.map Prod.snd))
    (tail : List Char) : decodeEach (entries.map Prod.fst) (digits ++ tail) = .ok entries := by
  induction entries generalizing digits with
  | nil => rfl
  | cons entry entries ih =>
    obtain ⟨first, rest, rfl, hf, hr⟩ := h.exists_of_cons
    have hl : first.length = digitsPerRegister := hf.length_eq
    rw [List.map_cons, List.append_assoc, decodeEach, List.take_left' hl, List.drop_left' hl,
      hf.decodeOne_eq, ih hr]
    rfl

theorem decode_eq {entries : List (Register × Word)} (h : Spells digits (entries.map Prod.snd))
    (tail : List Char) :
    decode (String.ofList (digits ++ tail)) (entries.map Prod.fst) = .ok entries := by
  have hl : digits.length = (entries.map Prod.fst).length * digitsPerRegister := by
    rw [h.length_eq, List.length_map, List.length_map]
  have ha : digits.all (·.toNat < 128) = true := by
    rw [List.all_eq_true]
    intro c hc
    have hr := Hex.range_of_isDigit (h.isDigit_of_mem hc)
    exact decide_eq_true (by omega)
  have hd := h.decodeEach_eq []
  rw [List.append_nil] at hd
  rw [decode, String.toList_ofList, List.take_left' hl, if_pos ⟨hl, ha⟩]
  exact hd

end Spells

theorem toList_ofRegisters (registers : Registers) (unavailable : Nat) :
    (ofRegisters registers unavailable).toList =
      Register.all.flatMap (fun register ↦ littleEndian (registers.get register)) ++
        List.replicate unavailable 'x' := by
  rw [ofRegisters, String.toList_ofList, Bank.values, List.flatMap_map]

theorem decode_ofRegisters (registers : Registers) (unavailable : Nat) :
    decode (ofRegisters registers unavailable) Register.all = .ok registers.entries :=
  (Spells.flatMap_littleEndian (registers.entries.map Prod.snd)).decode_eq _

theorem ascii_of_mem_ofRegisters {registers : Registers} {unavailable : Nat} {c : Char}
    (h : c ∈ (ofRegisters registers unavailable).toList) :
    c = 'x' ∨ 48 ≤ c.toNat ∧ c.toNat ≤ 102 := by
  rw [toList_ofRegisters] at h
  rcases List.mem_append.mp h with h | h
  · obtain ⟨register, -, hc⟩ := List.mem_flatMap.mp h
    exact .inr (Hex.range_of_isDigit (isDigit_of_mem_littleEndian hc))
  · exact .inl (List.eq_of_mem_replicate h)

theorem hash_notMem_ofRegisters (registers : Registers) (unavailable : Nat) :
    '#' ∉ (ofRegisters registers unavailable).toList := by
  intro h
  rcases ascii_of_mem_ofRegisters h with h | ⟨h, -⟩
  · exact absurd h (by decide)
  · exact absurd h (by decide)

theorem utf8ByteSize_ofRegisters (registers : Registers) (unavailable : Nat) :
    (ofRegisters registers unavailable).utf8ByteSize = 24 + unavailable := by
  have ha : ∀ c ∈ registers.values.flatMap littleEndian ++ List.replicate unavailable 'x',
      c.toNat < 128 := by
    intro c hc
    rcases ascii_of_mem_ofRegisters (c := c) (by rwa [ofRegisters, String.toList_ofList]) with
      rfl | ⟨-, h⟩
    · decide
    · omega
  have hl : (registers.values.flatMap littleEndian).length = 24 := rfl
  rw [ofRegisters, Text.utf8ByteSize_ofList_of_ascii ha, List.length_append, hl,
    List.length_replicate]

theorem map_fst_of_decodeEach {layout : List Register} {digits : List Char}
    {entries : List (Register × Word)} (h : decodeEach layout digits = .ok entries) :
    entries.map Prod.fst = layout := by
  induction layout generalizing digits entries with
  | nil =>
    cases h
    rfl
  | cons register layout ih =>
    rw [decodeEach] at h
    cases ho : decodeOne register (digits.take digitsPerRegister) with
    | error error =>
      rw [ho] at h
      simp [bind, Except.bind] at h
    | ok entry =>
      cases he : decodeEach layout (digits.drop digitsPerRegister) with
      | error error =>
        rw [ho, he] at h
        simp [bind, Except.bind] at h
      | ok entries' =>
        rw [ho, he] at h
        cases h
        rw [List.map_cons, ih he]
        unfold decodeOne at ho
        split at ho
        · cases ho
          rfl
        · simp at ho

theorem decode_cases (reply : String) (layout : List Register) :
    (∃ data, reply.toList.take (layout.length * digitsPerRegister) = data ∧
      data.length = layout.length * digitsPerRegister ∧ (∀ c ∈ data, c.toNat < 128) ∧
      decode reply layout = decodeEach layout data) ∨
    (¬ ((reply.toList.take (layout.length * digitsPerRegister)).length =
        layout.length * digitsPerRegister ∧
      ∀ c ∈ reply.toList.take (layout.length * digitsPerRegister), c.toNat < 128) ∧
      decode reply layout = .error (tooShort reply (layout.length * digitsPerRegister))) := by
  rw [decode]
  generalize reply.toList.take (layout.length * digitsPerRegister) = data
  have ha : data.all (·.toNat < 128) = true ↔ ∀ c ∈ data, c.toNat < 128 := by
    simp only [List.all_eq_true, decide_eq_true_eq]
  split
  · rename_i hc
    exact .inl ⟨data, rfl, hc.1, ha.mp hc.2, rfl⟩
  · rename_i hc
    exact .inr ⟨fun h ↦ hc ⟨h.1, ha.mpr h.2⟩, rfl⟩

theorem entries_of_decode {block : String} {entries : List (Register × Word)}
    (h : decode block Register.all = .ok entries) :
    ∃ registers : Registers, entries = registers.entries := by
  obtain ⟨data, -, -, -, hd⟩ | ⟨-, hd⟩ := decode_cases block Register.all
  · rw [hd] at h
    have hm := map_fst_of_decodeEach h
    simp only [Register.all, List.map_eq_cons_iff, List.map_eq_nil_iff] at hm
    obtain ⟨⟨_, af⟩, _, rfl, rfl, ⟨_, bc⟩, _, rfl, rfl, ⟨_, de⟩, _, rfl, rfl, ⟨_, hl⟩, _, rfl, rfl,
      ⟨_, sp⟩, _, rfl, rfl, ⟨_, pc⟩, _, rfl, rfl, rfl⟩ := hm
    exact ⟨⟨af, bc, de, hl, sp, pc⟩, rfl⟩
  · rw [hd] at h
    cases h

end Lockstep.RegisterBlock
