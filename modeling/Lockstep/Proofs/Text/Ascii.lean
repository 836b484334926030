import Lockstep.Text.Utf8
import Mathlib.Data.Nat.Init

namespace Lockstep.Text

theorem utf8_ofList (chars : List Char) :
    utf8 (String.ofList chars) = chars.flatMap String.utf8EncodeChar := by
  simp [utf8, List.utf8Encode]

theorem utf8EncodeChar_of_lt {c : Char} (h : c.toNat < 128) :
    String.utf8EncodeChar c = [UInt8.ofNat c.toNat] := by
  have hc : c.val.toNat ≤ 0x7f := by
    change c.val.toNat < 128 at h
    omega
  rw [String.utf8EncodeChar]
  exact if_pos hc

theorem toNat_ofNat_toNat (byte : UInt8) : (Char.ofNat byte.toNat).toNat = byte.toNat := by
  have hv : byte.toNat.isValidChar := .inl (Nat.lt_trans byte.toNat_lt (by decide))
  rw [Char.ofNat, dif_pos hv]
  rfl

theorem le_of_mem_utf8EncodeChar {c : Char} {byte : UInt8} (h : 128 ≤ c.toNat)
    (hb : byte ∈ String.utf8EncodeChar c) : 128 ≤ byte.toNat := by
  have hc : ¬ c.val.toNat ≤ 0x7f := by
    change 128 ≤ c.val.toNat at h
    omega
  have hv : c.val.toNat < 0x110000 := by
    have := c.valid
    unfold UInt32.isValidChar Nat.isValidChar at this
    omega
  revert hv hb
  fun_cases String.utf8EncodeChar
  all_goals
    simp only [List.mem_cons, List.not_mem_nil, or_false]
    rintro (rfl | rfl | rfl | rfl)
  all_goals
    simp only [UInt8.toNat_ofNat']
    omega

theorem exists_utf8EncodeChar_eq {c : Char} (h : 128 ≤ c.toNat) :
    ∃ first more, String.utf8EncodeChar c = first :: more ∧ 128 ≤ first.toNat := by
  obtain ⟨first, more, he⟩ := List.exists_cons_of_ne_nil (@String.utf8EncodeChar_ne_nil c)
  exact ⟨first, more, he, le_of_mem_utf8EncodeChar h (he ▸ List.mem_cons_self)⟩

theorem mem_utf8EncodeChar_iff {c : Char} {byte : UInt8} (h : byte.toNat < 128) :
    byte ∈ String.utf8EncodeChar c ↔ c.toNat = byte.toNat := by
  by_cases hc : c.toNat < 128
  · rw [utf8EncodeChar_of_lt hc, List.mem_singleton, ← UInt8.toNat_inj, UInt8.toNat_ofNat',
      Nat.mod_eq_of_lt (by omega), eq_comm]
  · constructor
    · intro hb
      have := le_of_mem_utf8EncodeChar (by omega) hb
      omega
    · omega

theorem mem_utf8_iff {text : String} {byte : UInt8} (h : byte.toNat < 128) :
    byte ∈ utf8 text ↔ ∃ c ∈ text.toList, c.toNat = byte.toNat := by
  have ht : utf8 text = text.toList.flatMap String.utf8EncodeChar := by
    rw [← utf8_ofList, String.ofList_toList]
  simp only [ht, List.mem_flatMap, mem_utf8EncodeChar_iff h]

theorem utf8_ofList_of_ascii {chars : List Char} (h : ∀ c ∈ chars, c.toNat < 128) :
    utf8 (String.ofList chars) = chars.map fun c ↦ UInt8.ofNat c.toNat := by
  rw [utf8_ofList]
  induction chars with
  | nil => rfl
  | cons c chars ih =>
    rw [List.flatMap_cons, utf8EncodeChar_of_lt (h c List.mem_cons_self), List.map_cons,
      ih fun d hd ↦ h d (List.mem_cons_of_mem c hd)]
    rfl

/-- Where only ASCII characters may stand, the first bytes are the first characters. -/
theorem forall_getElem?_utf8_iff {P : Nat → Char → Prop} (hP : ∀ i c, P i c → c.toNat < 128)
    (chars : List Char) (n : Nat) :
    (∀ i < n, ∃ byte, (utf8 (String.ofList chars))[i]? = some byte ∧ P i (Char.ofNat byte.toNat)) ↔
      ∀ i < n, ∃ c, chars[i]? = some c ∧ P i c := by
  simp only [utf8_ofList]
  induction chars generalizing P n with
  | nil => simp
  | cons c chars ih =>
    cases n with
    | zero => simp
    | succ n =>
      rw [Nat.forall_lt_succ_left, Nat.forall_lt_succ_left, List.flatMap_cons]
      by_cases hc : c.toNat < 128
      · have hb : Char.ofNat (UInt8.ofNat c.toNat).toNat = c := by
          rw [UInt8.toNat_ofNat', Nat.mod_eq_of_lt (by omega), Char.ofNat_toNat]
        rw [utf8EncodeChar_of_lt hc]
        refine and_congr ?_ (ih (fun i ↦ hP (i + 1)) n)
        simp only [List.cons_append, List.getElem?_cons_zero, Option.some.injEq, exists_eq_left',
          hb]
      · obtain ⟨first, more, he, hf⟩ := exists_utf8EncodeChar_eq (Nat.le_of_not_lt hc)
        rw [he]
        constructor
        · intro h
          obtain ⟨⟨byte, hb, hp⟩, -⟩ := h
          obtain rfl : first = byte := Option.some.inj hb
          have := hP 0 _ hp
          rw [toNat_ofNat_toNat] at this
          omega
        · intro h
          obtain ⟨⟨d, hd, hp⟩, -⟩ := h
          obtain rfl : c = d := Option.some.inj hd
          exact absurd (hP 0 c hp) hc

theorem length_utf8 (text : String) : (utf8 text).length = text.utf8ByteSize := by
  simp [utf8]

theorem utf8ByteSize_ofList_of_ascii {chars : List Char} (h : ∀ c ∈ chars, c.toNat < 128) :
    (String.ofList chars).utf8ByteSize = chars.length := by
  rw [← length_utf8, utf8_ofList_of_ascii h, List.length_map]

/-- The part stands between two byte offsets of the text, and both lie between characters. -/
def Spans (text : List Char) (start stop : Nat) (part : List Char) : Prop :=
  ∃ before after, before ++ part ++ after = text ∧
    (String.ofList before).utf8ByteSize = start ∧
    (String.ofList (before ++ part)).utf8ByteSize = stop

theorem spans_of_ascii {text : List Char} {start count : Nat}
    (ha : ∀ c ∈ text.take (start + count), c.toNat < 128) (hl : start + count ≤ text.length) :
    Spans text start (start + count) ((text.drop start).take count) := by
  have hsize : ∀ n ≤ start + count, (String.ofList (text.take n)).utf8ByteSize = n := by
    intro n hn
    have ht : text.take n ⊆ text.take (start + count) := List.take_subset_take_left text hn
    rw [utf8ByteSize_ofList_of_ascii fun c hc ↦ ha c (ht hc),
      List.length_take_of_le (Nat.le_trans hn hl)]
  refine ⟨text.take start, text.drop (start + count), ?_, hsize start (Nat.le_add_right ..), ?_⟩
  · rw [← List.take_add, List.take_append_drop]
  · rw [← List.take_add]
    exact hsize _ (Nat.le_refl _)

end Lockstep.Text
