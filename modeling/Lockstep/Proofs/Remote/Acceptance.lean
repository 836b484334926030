import Lockstep.Proofs.Remote.Block
import Lockstep.Proofs.Remote.Trailer

namespace Lockstep.RegisterBlock

/-- What is taken at a place: a digit, or a plus sign where a register begins. -/
inductive Mark (place : Nat) (byte : UInt8) : Prop
  | digit {n : Nat} (hd : Frame.Digit byte n)
  | sign (hp : place % digitsPerRegister = 0) (hb : byte = Frame.plus)

/-- The bytes begin with such marks for so many registers. -/
def Readable (bytes : List UInt8) (registers : Nat) : Prop :=
  ∀ place < registers * digitsPerRegister, ∃ byte, bytes[place]? = some byte ∧ Mark place byte

/-- The digits of so many registers are cut out of a reply: each part is there, and begins and ends
between characters. -/
def Cut (reply : String) (registers : Nat) (part : Nat → List Char) : Prop :=
  ∃ data, Text.Spans reply.toList 0 (registers * digitsPerRegister) data ∧
    ∀ i < registers,
      Text.Spans data (i * digitsPerRegister) ((i + 1) * digitsPerRegister) (part i)

def Taken (place : Nat) (c : Char) : Prop :=
  Hex.isDigit c = true ∨ place % digitsPerRegister = 0 ∧ c = '+'

theorem mark_iff {place : Nat} {byte : UInt8} :
    Mark place byte ↔ Taken place (Char.ofNat byte.toNat) := by
  rw [Taken, Hex.isDigit, Option.isSome_iff_exists, Frame.ofNat_eq_plus_iff]
  simp only [Frame.digitValue?_eq_some_iff]
  constructor
  · intro h
    cases h with
    | digit hd => exact .inl ⟨_, hd⟩
    | sign hp hb => exact .inr ⟨hp, hb⟩
  · intro h
    obtain ⟨n, hd⟩ | ⟨hp, hb⟩ := h
    · exact .digit hd
    · exact .sign hp hb

theorem lt_of_taken (place : Nat) (c : Char) (h : Taken place c) : c.toNat < 128 := by
  obtain h | ⟨-, rfl⟩ := h
  · have := (Hex.range_of_isDigit h).2
    omega
  · decide

theorem readable_iff (reply : String) (registers : Nat) :
    Readable (Text.utf8 reply) registers ↔
      ∀ place < registers * digitsPerRegister,
        ∃ c, reply.toList[place]? = some c ∧ Taken place c := by
  have h := Text.forall_getElem?_utf8_iff lt_of_taken reply.toList (registers * digitsPerRegister)
  rw [String.ofList_toList] at h
  simp only [Readable, mark_iff]
  exact h

theorem forall_taken_iff (digits : List Char) (n : Nat) :
    (∀ place < n + digitsPerRegister, ∃ c, digits[place]? = some c ∧ Taken place c) ↔
      (∀ place < digitsPerRegister,
        ∃ c, (digits.take digitsPerRegister)[place]? = some c ∧ Taken place c) ∧
      ∀ place < n, ∃ c, (digits.drop digitsPerRegister)[place]? = some c ∧ Taken place c := by
  have hadd : ∀ place c, Taken (digitsPerRegister + place) c ↔ Taken place c := by
    intro place c
    rw [Taken, Taken, Nat.add_mod_left]
  constructor
  · intro h
    refine ⟨fun place hp ↦ ?_, fun place hp ↦ ?_⟩
    · rw [List.getElem?_take, if_pos hp]
      exact h place (by omega)
    · obtain ⟨c, hc, ht⟩ := h (digitsPerRegister + place) (by omega)
      exact ⟨c, List.getElem?_drop.trans hc, (hadd place c).mp ht⟩
  · intro h place hp
    obtain ⟨hf, hr⟩ := h
    by_cases hp' : place < digitsPerRegister
    · obtain ⟨c, hc, ht⟩ := hf place hp'
      rw [List.getElem?_take, if_pos hp'] at hc
      exact ⟨c, hc, ht⟩
    · obtain ⟨c, hc, ht⟩ := hr (place - digitsPerRegister) (by omega)
      rw [List.getElem?_drop, Nat.add_sub_of_le (by omega)] at hc
      rw [← hadd, Nat.add_sub_of_le (by omega)] at ht
      exact ⟨c, hc, ht⟩

theorem exists_decodeOne_iff (register : Register) {digits : List Char}
    (hl : digits.length = digitsPerRegister) :
    (∃ entry, decodeOne register digits = .ok entry) ↔
      ∀ place < digitsPerRegister, ∃ c, digits[place]? = some c ∧ Taken place c := by
  have hv : (∃ entry, decodeOne register digits = .ok entry) ↔
      ∃ n, Hex.signedValue? digits = some n := by
    unfold decodeOne
    split <;> simp [*]
  obtain ⟨first, rest, rfl⟩ := List.exists_cons_of_length_eq_add_one hl
  obtain ⟨b, c, d, rfl⟩ := List.length_eq_three.mp (Nat.succ.inj hl)
  have hp : (∀ place < digitsPerRegister,
      ∃ e, [first, b, c, d][place]? = some e ∧ Taken place e) ↔
      Taken 0 first ∧ Taken 1 b ∧ Taken 2 c ∧ Taken 3 d := by
    simp only [digitsPerRegister, Nat.forall_lt_succ_left, Nat.not_lt_zero, List.getElem?_cons_zero,
      List.getElem?_cons_succ, Option.some.injEq, exists_eq_left', IsEmpty.forall_iff,
      forall_true_iff, and_true]
  rw [hv, Hex.exists_signedValue?_iff (by simp), hp]
  simp [Taken, digitsPerRegister]

theorem exists_decodeEach_iff (layout : List Register) {digits : List Char}
    (hl : digits.length = layout.length * digitsPerRegister) :
    (∃ entries, decodeEach layout digits = .ok entries) ↔
      ∀ place < layout.length * digitsPerRegister,
        ∃ c, digits[place]? = some c ∧ Taken place c := by
  induction layout generalizing digits with
  | nil => simp [decodeEach]
  | cons register layout ih =>
    rw [List.length_cons, Nat.succ_mul] at hl ⊢
    have hf : (digits.take digitsPerRegister).length = digitsPerRegister := by
      rw [List.length_take, hl]
      omega
    have hr : (digits.drop digitsPerRegister).length = layout.length * digitsPerRegister := by
      rw [List.length_drop, hl]
      omega
    rw [forall_taken_iff, ← exists_decodeOne_iff register hf, ← ih hr, decodeEach]
    cases decodeOne register (digits.take digitsPerRegister) with
    | error error => simp [bind, Except.bind]
    | ok entry =>
      cases decodeEach layout (digits.drop digitsPerRegister) <;>
        simp [bind, Except.bind, pure, Except.pure]

theorem ascii_of_taken {chars : List Char} {n : Nat}
    (h : ∀ place < n, ∃ c, chars[place]? = some c ∧ Taken place c) :
    (chars.take n).length = n ∧ ∀ c ∈ chars.take n, c.toNat < 128 := by
  constructor
  · refine List.length_take_of_le (Nat.le_of_not_lt fun hlt ↦ ?_)
    obtain ⟨c, hn, -⟩ := h _ hlt
    simp at hn
  · intro c hm
    obtain ⟨place, hp⟩ := List.getElem?_of_mem hm
    rw [List.getElem?_take] at hp
    split at hp
    · rename_i hlt
      obtain ⟨d, hd, ht⟩ := h place hlt
      obtain rfl : c = d := Option.some.inj (hp.symm.trans hd)
      exact lt_of_taken place c ht
    · cases hp

theorem exists_decode_iff (reply : String) (layout : List Register) :
    (∃ entries, decode reply layout = .ok entries) ↔
      Readable (Text.utf8 reply) layout.length := by
  rw [readable_iff]
  obtain ⟨data, rfl, hl, -, hd⟩ | ⟨hn, hd⟩ := decode_cases reply layout
  · rw [hd, exists_decodeEach_iff layout hl]
    refine forall₂_congr fun place hp ↦ ?_
    rw [List.getElem?_take, if_pos hp]
  · rw [hd]
    constructor
    · intro h
      obtain ⟨entries, he⟩ := h
      cases he
    · intro h
      exact absurd (ascii_of_taken h) hn

theorem decodeEach_cases (layout : List Register) (digits : List Char) :
    (∃ entries, decodeEach layout digits = .ok entries) ∨
      ∃ register ∈ layout, ∃ part, decodeEach layout digits = .error (badValue register part) := by
  induction layout generalizing digits with
  | nil => exact .inl ⟨[], rfl⟩
  | cons register layout ih =>
    rw [decodeEach]
    cases ho : decodeOne register (digits.take digitsPerRegister) with
    | error error =>
      refine .inr ⟨register, List.mem_cons_self, digits.take digitsPerRegister, ?_⟩
      unfold decodeOne at ho
      split at ho
      · cases ho
      · cases ho
        rfl
    | ok entry =>
      obtain ⟨entries, he⟩ | ⟨named, hm, part, he⟩ := ih (digits.drop digitsPerRegister)
      · exact .inl ⟨entry :: entries, by rw [he]; rfl⟩
      · exact .inr ⟨named, List.mem_cons_of_mem _ hm, part, by rw [he]; rfl⟩

theorem decode_protocol_iff (reply : String) (layout : List Register) :
    (∃ text, decode reply layout = .error (.protocol text)) ↔
      ¬ ∃ entries, decode reply layout = .ok entries := by
  constructor
  · intro h he
    obtain ⟨text, h⟩ := h
    obtain ⟨entries, he⟩ := he
    rw [h] at he
    cases he
  · intro h
    obtain ⟨data, -, -, -, hd⟩ | ⟨-, hd⟩ := decode_cases reply layout
    · rw [hd] at h ⊢
      obtain he | ⟨register, -, part, he⟩ := decodeEach_cases layout data
      · exact absurd he h
      · exact ⟨_, he⟩
    · exact ⟨_, hd⟩

def digitsAt (digits : List Char) (i : Nat) : List Char :=
  (digits.drop (i * digitsPerRegister)).take digitsPerRegister

theorem decodeEach_eq_mapM (layout : List Register) (digits : List Char) (skipped : Nat) :
    decodeEach layout (digits.drop (skipped * digitsPerRegister)) =
      (layout.zipIdx skipped).mapM fun entry ↦ decodeOne entry.1 (digitsAt digits entry.2) := by
  induction layout generalizing skipped with
  | nil => rfl
  | cons register layout ih =>
    rw [List.zipIdx_cons, List.mapM_cons, ← ih, decodeEach, List.drop_drop, Nat.succ_mul,
      digitsAt]

theorem cut_of_ascii {reply : String} {registers : Nat} {data : List Char}
    (hd : reply.toList.take (registers * digitsPerRegister) = data)
    (hl : data.length = registers * digitsPerRegister) (ha : ∀ c ∈ data, c.toNat < 128) :
    Cut reply registers (digitsAt data) := by
  refine ⟨data, ?_, fun i hi ↦ ?_⟩
  · subst hd
    have hn := hl ▸ List.length_take_le' (registers * digitsPerRegister) reply.toList
    have hz := (Nat.zero_add (registers * digitsPerRegister)).symm
    have hs := Text.spans_of_ascii (hz ▸ ha) (hz ▸ hn)
    rwa [Nat.zero_add, List.drop_zero] at hs
  · rw [Nat.succ_mul]
    refine Text.spans_of_ascii (fun c hc ↦ ha c (List.mem_of_mem_take hc)) ?_
    rw [hl, ← Nat.succ_mul]
    exact Nat.mul_le_mul_right _ hi

theorem decode_parts (reply : String) (layout : List Register) :
    decode reply layout = .error (tooShort reply (layout.length * digitsPerRegister)) ∨
      ∃ part, Cut reply layout.length part ∧
        decode reply layout =
          layout.zipIdx.mapM fun entry ↦ decodeOne entry.1 (part entry.2) := by
  obtain ⟨data, hdata, hl, ha, hd⟩ | ⟨-, hd⟩ := decode_cases reply layout
  · have hm := decodeEach_eq_mapM layout data 0
    rw [Nat.zero_mul, List.drop_zero] at hm
    exact .inr ⟨_, cut_of_ascii hdata hl ha, hd.trans hm⟩
  · exact .inl hd

/-- A reply is read if it begins with the digits of each register, but for plus signs where registers
begin, and is against the protocol otherwise. -/
theorem decode_answer (reply : String) (layout : List Register) :
    ((∃ entries, decode reply layout = .ok entries) ↔
        Readable (Text.utf8 reply) layout.length) ∧
      ((∃ text, decode reply layout = .error (.protocol text)) ↔
        ¬ Readable (Text.utf8 reply) layout.length) ∧
      (decode reply layout = .error (tooShort reply (layout.length * digitsPerRegister)) ∨
        ∃ part, Cut reply layout.length part ∧
          decode reply layout =
            layout.zipIdx.mapM fun entry ↦ decodeOne entry.1 (part entry.2)) := by
  refine ⟨exists_decode_iff reply layout, ?_, decode_parts reply layout⟩
  rw [decode_protocol_iff, exists_decode_iff]

theorem signed_block_accepted :
    decode "+000" [.af] = .ok [(.af, 0)] ∧
      ¬ ∀ place < 4, ∃ byte n, (Text.utf8 "+000")[place]? = some byte ∧ Frame.Digit byte n := by
  refine ⟨rfl, fun h ↦ ?_⟩
  obtain ⟨byte, n, hb, hd⟩ := h 0 (by decide)
  obtain rfl : Frame.plus = byte := Option.some.inj hb
  have hp : Hex.digitValue? '+' = some n := Frame.digitValue?_eq_some_iff.mpr hd
  cases hp

end Lockstep.RegisterBlock
