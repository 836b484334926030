import Lockstep.Proofs.Text.Ascii
import Lockstep.Proofs.Text.Digits
import Lockstep.Remote.Frame

namespace Lockstep.Frame

/-- The bytes of one packet with a text for a body, behind any number of acknowledgements. -/
def IsPacket (packet : List UInt8) (text : String) : Prop :=
  ∃ acks high low,
    packet = List.replicate acks plus ++ dollar :: (Text.utf8 text ++ [hash, high, low]) ∧
    hash ∉ Text.utf8 text ∧ (Text.utf8 text).length ≤ maxBody ∧
    trailerValue? high low = some (checksum (Text.utf8 text))

variable {atEnd : SessionError} {bytes body rest packet : List UInt8} {text : String} {room : Nat}

theorem findStart_append_acks (acks : Nat) (bytes : List UInt8) :
    findStart atEnd (List.replicate acks plus ++ bytes) = findStart atEnd bytes := by
  induction acks with
  | zero => rfl
  | succ acks ih => rw [List.replicate_succ, List.cons_append, findStart, if_pos rfl, ih]

theorem findStart_acks (acks : Nat) (rest : List UInt8) :
    findStart atEnd (List.replicate acks plus ++ dollar :: rest) = (.ok (), rest) := by
  rw [findStart_append_acks]
  rfl

theorem acks_of_findStart (h : findStart atEnd bytes = (.ok (), rest)) :
    ∃ acks, bytes = List.replicate acks plus ++ dollar :: rest := by
  fun_induction findStart atEnd bytes with
  | case1 => simp at h
  | case2 bytes ih =>
    obtain ⟨acks, rfl⟩ := ih h
    exact ⟨acks + 1, rfl⟩
  | case3 bytes =>
    obtain ⟨-, rfl⟩ := Prod.mk.inj h
    exact ⟨0, rfl⟩
  | case4 => simp at h
  | case5 => simp at h

theorem readBody_append_of_notMem (hn : hash ∉ body) (room : Nat) (bytes : List UInt8) :
    readBody atEnd (body.length + room) (body ++ bytes) =
      ((readBody atEnd room bytes).1.map (body ++ ·), (readBody atEnd room bytes).2) := by
  induction body with
  | nil =>
    rw [List.length_nil, Nat.zero_add, List.nil_append]
    rcases readBody atEnd room bytes with ⟨_ | tail, rest⟩ <;> rfl
  | cons byte body ih =>
    rw [List.mem_cons, not_or] at hn
    have hr := ih hn.2
    rw [List.length_cons, Nat.add_right_comm, List.cons_append, readBody, if_neg (Ne.symm hn.1)]
    rw [hr]
    rcases readBody atEnd room bytes with ⟨_ | tail, rest⟩ <;> rfl

theorem readBody_append (hn : hash ∉ body) (hl : body.length ≤ room) (rest : List UInt8) :
    readBody atEnd room (body ++ hash :: rest) = (.ok body, rest) := by
  obtain ⟨more, rfl⟩ := Nat.exists_eq_add_of_le hl
  have hend : readBody atEnd more (hash :: rest) = (.ok [], rest) := by cases more <;> rfl
  rw [readBody_append_of_notMem hn, hend]
  simp [Except.map]

theorem readBody_of_full (hn : hash ∉ body) {byte : UInt8} (hb : byte ≠ hash) (rest : List UInt8) :
    readBody atEnd body.length (body ++ byte :: rest) =
      (.error (.protocol "packet too long"), rest) := by
  have hr : readBody atEnd _ _ = _ := readBody_append_of_notMem hn 0 (byte :: rest)
  rw [Nat.add_zero] at hr
  rw [hr, readBody, if_neg hb]
  rfl

theorem readBody_of_long (hn : hash ∉ body) (hl : room < body.length) (rest : List UInt8) :
    (readBody atEnd room (body ++ rest)).1 = .error (.protocol "packet too long") := by
  obtain ⟨front, byte, behind, rfl, rfl⟩ : ∃ front byte behind,
      body = front ++ byte :: behind ∧ front.length = room := by
    refine ⟨body.take room, body[room], body.drop (room + 1), ?_, ?_⟩
    · rw [List.getElem_cons_drop, List.take_append_drop]
    · rw [List.length_take, Nat.min_eq_left (Nat.le_of_lt hl)]
  rw [List.mem_append, List.mem_cons, not_or, not_or] at hn
  rw [List.append_assoc, List.cons_append, readBody_of_full hn.1 (Ne.symm hn.2.1)]

theorem readBytes_of_body (acks : Nat) (h : readBody atEnd maxBody bytes = (.ok body, rest)) :
    readBytes atEnd (List.replicate acks plus ++ dollar :: bytes) = readTrailer atEnd body rest := by
  simp only [readBytes, findStart_acks, h]

theorem readBytes_of_no_body (acks : Nat) {error : SessionError}
    (h : readBody atEnd maxBody bytes = (.error error, rest)) :
    readBytes atEnd (List.replicate acks plus ++ dollar :: bytes) = (.error error, rest) := by
  simp only [readBytes, findStart_acks, h]

theorem append_of_readBody (h : readBody atEnd room bytes = (.ok body, rest)) :
    bytes = body ++ hash :: rest ∧ hash ∉ body ∧ body.length ≤ room := by
  fun_induction readBody atEnd room bytes generalizing body with
  | case1 => simp at h
  | case2 room bytes =>
    obtain ⟨hb, rfl⟩ := Prod.mk.inj h
    cases hb
    simp
  | case3 => simp at h
  | case4 byte bytes hb room tail after hr ih =>
    obtain ⟨ht, rfl⟩ := Prod.mk.inj h
    cases tail with
    | error error => simp [Except.map] at ht
    | ok tail =>
      cases ht
      obtain ⟨rfl, hn, hl⟩ := ih hr
      refine ⟨rfl, ?_, by simpa using hl⟩
      rw [List.mem_cons, not_or]
      exact ⟨Ne.symm hb, hn⟩

theorem check_eq_ok_iff {high low : UInt8} :
    check body high low = .ok text ↔
      trailerValue? high low = some (checksum body) ∧ body = Text.utf8 text := by
  unfold check
  cases trailerValue? high low with
  | none => simp
  | some expected =>
    by_cases hc : checksum body = expected
    · subst hc
      cases ht : Text.ofUtf8? body with
      | none =>
        simp only [ne_eq, not_true, if_false, reduceCtorEq, true_and, false_iff]
        rintro rfl
        rw [Text.ofUtf8?_utf8] at ht
        simp at ht
      | some text' =>
        have hb := Text.utf8_of_ofUtf8? ht
        simp only [ne_eq, not_true, if_false, Except.ok.injEq, true_and]
        constructor
        · rintro rfl
          exact hb.symm
        · rintro rfl
          rw [Text.ofUtf8?_utf8] at ht
          exact (Option.some.inj ht).symm
    · simp [hc, Ne.symm hc]

/-- Reading succeeds exactly on packets, and takes nothing behind them. -/
theorem readBytes_eq_ok_iff :
    readBytes atEnd bytes = (.ok text, rest) ↔
      ∃ packet, IsPacket packet text ∧ bytes = packet ++ rest := by
  constructor
  · intro h
    unfold readBytes at h
    rcases hs : findStart atEnd bytes with ⟨error | ⟨⟩, inner⟩ <;> rw [hs] at h
    · simp at h
    obtain ⟨acks, rfl⟩ := acks_of_findStart hs
    dsimp only at h
    rcases hb : readBody atEnd maxBody inner with ⟨error | body, after⟩ <;> rw [hb] at h
    · simp at h
    obtain ⟨rfl, hn, hl⟩ := append_of_readBody hb
    dsimp only at h
    rcases after with _ | ⟨high, _ | ⟨low, after⟩⟩
    · simp [readTrailer] at h
    · simp [readTrailer] at h
    · obtain ⟨hc, rfl⟩ := Prod.mk.inj h
      obtain ⟨ht, rfl⟩ := check_eq_ok_iff.mp hc
      exact ⟨_, ⟨acks, high, low, rfl, hn, hl, ht⟩, by simp⟩
  · rintro ⟨packet, ⟨acks, high, low, rfl, hn, hl, ht⟩, rfl⟩
    have hb : readBody atEnd _ _ = _ := readBody_append hn hl (high :: low :: rest)
    simp only [readBytes, List.append_assoc, List.cons_append, List.nil_append, findStart_acks, hb,
      readTrailer, check_eq_ok_iff.mpr ⟨ht, rfl⟩]

def digitByte (n : Nat) : UInt8 := UInt8.ofNat (Hex.digit n).toNat

def framed (text : String) (high low : UInt8) : List UInt8 :=
  dollar :: (Text.utf8 text ++ [hash, high, low])

theorem utf8_byteText (byte : UInt8) :
    Text.utf8 (String.ofList (Hex.byteText byte)) =
      [digitByte (byte.toNat / 16), digitByte (byte.toNat % 16)] := by
  have hbyte := byte.toNat_lt
  have hh : (Hex.digit (byte.toNat / 16)).toNat < 128 := Hex.toNat_digit_lt (by omega)
  have hl : (Hex.digit (byte.toNat % 16)).toNat < 128 := Hex.toNat_digit_lt (by omega)
  exact Text.utf8_ofList_of_ascii (by simp [Hex.byteText, hh, hl])

theorem utf8_ofText (text : String) :
    Text.utf8 (ofText text) = framed text (digitByte ((checksum (Text.utf8 text)).toNat / 16))
      (digitByte ((checksum (Text.utf8 text)).toNat % 16)) := by
  have hd : Text.utf8 "$" = [dollar] := by decide
  have hh : Text.utf8 "#" = [hash] := by decide
  simp only [ofText, Text.utf8_append, utf8_byteText, hd, hh, framed, List.append_assoc,
    List.cons_append, List.nil_append]

theorem trailerValue?_digitByte (byte : UInt8) :
    trailerValue? (digitByte (byte.toNat / 16)) (digitByte (byte.toNat % 16)) = some byte := by
  have hbyte := byte.toNat_lt
  have hr : ∀ c : Char, c.toNat < 128 → Char.ofNat (UInt8.ofNat c.toNat).toNat = c := by
    intro c hc
    rw [UInt8.toNat_ofNat', Nat.mod_eq_of_lt (by omega), Char.ofNat_toNat]
  have hv := Hex.signedValue?_byteText byte
  rw [Hex.byteText] at hv
  rw [trailerValue?, digitByte, digitByte, hr _ (Hex.toNat_digit_lt (by omega)),
    hr _ (Hex.toNat_digit_lt (by omega)), hv]
  simp

theorem hash_mem_utf8_iff : hash ∈ Text.utf8 text ↔ '#' ∈ text.toList := by
  rw [Text.mem_utf8_iff (by decide)]
  constructor
  · rintro ⟨c, hc, hv⟩
    have he : c = '#' := Char.toNat_inj.mp hv
    exact he ▸ hc
  · intro h
    exact ⟨'#', h, rfl⟩

/-- A text that can be told from the end of its packet, and that is not too long. -/
def Fits (text : String) : Prop :=
  '#' ∉ text.toList ∧ text.utf8ByteSize ≤ maxBody

instance : Decidable (Fits text) := inferInstanceAs (Decidable (_ ∧ _))

theorem isPacket_ofText (acks : Nat) (h : Fits text) :
    IsPacket (List.replicate acks plus ++ Text.utf8 (ofText text)) text := by
  obtain ⟨hn, hl⟩ := h
  refine ⟨acks, _, _, by rw [utf8_ofText, framed], ?_, ?_, trailerValue?_digitByte _⟩
  · rwa [hash_mem_utf8_iff]
  · rwa [Text.length_utf8]

theorem fits_of_isPacket (h : IsPacket packet text) : Fits text := by
  obtain ⟨acks, high, low, -, hn, hl, -⟩ := h
  rw [hash_mem_utf8_iff] at hn
  rw [Text.length_utf8] at hl
  exact ⟨hn, hl⟩

theorem read_ofText (acks : Nat) (h : Fits text) (unread : List UInt8) (failure : Option Fault) :
    read ⟨List.replicate acks plus ++ (Text.utf8 (ofText text) ++ unread), failure⟩ =
      (.ok text, ⟨unread, failure⟩) := by
  have hr : readBytes (ending failure) _ = (.ok text, unread) :=
    readBytes_eq_ok_iff.mpr ⟨_, isPacket_ofText acks h, (List.append_assoc ..).symm⟩
  simp only [read, hr]

theorem fits_of_read {source : Source} (h : (read source).1 = .ok text) : Fits text := by
  have hr : readBytes (ending source.failure) source.bytes = (.ok text, (read source).2.bytes) :=
    Prod.ext h rfl
  obtain ⟨packet, hp, -⟩ := readBytes_eq_ok_iff.mp hr
  exact fits_of_isPacket hp

theorem readBytes_of_long (atEnd : SessionError) (acks : Nat) (hn : '#' ∉ text.toList)
    (hl : maxBody < text.utf8ByteSize) :
    (readBytes atEnd (List.replicate acks plus ++ Text.utf8 (ofText text))).1 =
      .error (.protocol "packet too long") := by
  have hb (trailer : List UInt8) :
      (readBody atEnd maxBody (Text.utf8 text ++ hash :: trailer)).1 =
        .error (.protocol "packet too long") :=
    readBody_of_long (by rwa [hash_mem_utf8_iff]) (by rwa [Text.length_utf8]) _
  rw [utf8_ofText, framed, readBytes_of_no_body acks (Prod.ext (hb _) rfl)]

end Lockstep.Frame
