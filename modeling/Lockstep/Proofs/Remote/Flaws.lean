import Lockstep.Proofs.Attempt
import Lockstep.Proofs.Remote.Trailer
import Mathlib.Logic.ExistsUnique

namespace Lockstep.Frame

def IsBody (body : List UInt8) : Prop := hash ∉ body ∧ body.length ≤ maxBody

/-- What is wrong with bytes that are not a packet, when so many of them have been taken behind the
acknowledgements. The last byte taken is the first from which that can be told. -/
inductive Flaw (failure : Option Fault) :
    (taken rest : List UInt8) → SessionError → Prop
  | noStart : Flaw failure [] [] (ending failure)
  | retransmission (rest : List UInt8) :
      Flaw failure [minus] rest (.protocol "stub requested retransmission")
  | badStart {byte : UInt8} (hp : byte ≠ plus) (hd : byte ≠ dollar) (hm : byte ≠ minus)
      (rest : List UInt8) : Flaw failure [byte] rest (badStart byte)
  | noEnd {body : List UInt8} (hb : IsBody body) :
      Flaw failure (dollar :: body) [] (ending failure)
  | tooLong {body : List UInt8} {byte : UInt8} (hn : hash ∉ body) (hl : body.length = maxBody)
      (hb : byte ≠ hash) (rest : List UInt8) :
      Flaw failure (dollar :: (body ++ [byte])) rest (.protocol "packet too long")
  | noTrailer {body trailer : List UInt8} (hb : IsBody body) (ht : trailer.length < 2) :
      Flaw failure (dollar :: (body ++ hash :: trailer)) [] (ending failure)
  | badDigits {body : List UInt8} {high low : UInt8} (hb : IsBody body)
      (ht : ∀ n, ¬ Trailer high low n) (rest : List UInt8) :
      Flaw failure (dollar :: (body ++ [hash, high, low])) rest
        (.protocol "invalid checksum digits")
  | badSum {body : List UInt8} {high low expected : UInt8} (hb : IsBody body)
      (ht : Trailer high low expected.toNat) (hs : expected.toNat ≠ total body % 256)
      (rest : List UInt8) :
      Flaw failure (dollar :: (body ++ [hash, high, low])) rest
        (badChecksum expected (checksum body))
  | notText {body : List UInt8} {high low : UInt8} (hb : IsBody body)
      (ht : Trailer high low (total body % 256)) (hu : ∀ text, Text.utf8 text ≠ body)
      (rest : List UInt8) :
      Flaw failure (dollar :: (body ++ [hash, high, low])) rest
        (.protocol "packet is not valid UTF-8")

variable {failure : Option Fault} {atEnd error : SessionError} {body bytes taken rest : List UInt8}
  {high low : UInt8} {text : String}

theorem isBody_utf8_iff : IsBody (Text.utf8 text) ↔ Fits text := by
  rw [IsBody, Fits, hash_mem_utf8_iff, Text.length_utf8]

theorem trailerValue?_checksum_iff :
    trailerValue? high low = some (checksum body) ↔ Trailer high low (total body % 256) := by
  rw [trailerValue?_eq_some_iff, toNat_checksum]

theorem check_of_no_trailer (h : ∀ n, ¬ Trailer high low n) :
    check body high low = .error (.protocol "invalid checksum digits") := by
  simp only [check, trailerValue?_eq_none_iff.mpr h]

theorem check_of_bad_sum {expected : UInt8} (h : Trailer high low expected.toNat)
    (hs : expected.toNat ≠ total body % 256) :
    check body high low = .error (badChecksum expected (checksum body)) := by
  have hne : checksum body ≠ expected := by
    rintro rfl
    exact hs (toNat_checksum body)
  simp only [check, trailerValue?_eq_some_iff.mpr h, if_pos hne]

theorem check_of_no_text (h : Trailer high low (total body % 256))
    (hu : ∀ text, Text.utf8 text ≠ body) :
    check body high low = .error (.protocol "packet is not valid UTF-8") := by
  have hnone : Text.ofUtf8? body = none := by
    by_contra hsome
    obtain ⟨text, ht⟩ := Option.ne_none_iff_exists'.mp hsome
    exact hu text (Text.utf8_of_ofUtf8? ht)
  simp only [check, trailerValue?_checksum_iff.mpr h, ne_eq, not_true, if_false, hnone]

theorem readBody_of_no_end (hb : IsBody body) :
    readBody atEnd maxBody body = (.error atEnd, []) := by
  obtain ⟨room, hr⟩ := Nat.exists_eq_add_of_le hb.2
  have hnil : readBody atEnd room [] = (.error atEnd, []) := by cases room <;> rfl
  have h : readBody atEnd _ _ = _ := readBody_append_of_notMem hb.1 room []
  rw [List.append_nil, hnil] at h
  rw [hr, h]
  rfl

theorem readBytes_of_check {result : Except SessionError String} (hb : IsBody body)
    (hc : check body high low = result) (acks : Nat) (rest : List UInt8) :
    readBytes atEnd (List.replicate acks plus ++
      (dollar :: (body ++ [hash, high, low]) ++ rest)) = (result, rest) := by
  have hbytes : dollar :: (body ++ [hash, high, low]) ++ rest =
      dollar :: (body ++ hash :: high :: low :: rest) := by simp
  rw [hbytes, readBytes_of_body acks (readBody_append hb.1 hb.2 _), readTrailer, hc]

theorem readBytes_of_flaw (h : Flaw failure taken rest error) (acks : Nat) :
    readBytes (ending failure) (List.replicate acks plus ++ (taken ++ rest)) =
      (.error error, rest) := by
  cases h with
  | noStart =>
    rw [readBytes, findStart_append_acks]
    rfl
  | retransmission =>
    rw [readBytes, findStart_append_acks]
    rfl
  | badStart hp hd hm =>
    rw [readBytes, findStart_append_acks, List.singleton_append, findStart, if_neg hp, if_neg hd,
      if_neg hm]
  | noEnd hb =>
    rw [List.append_nil]
    exact readBytes_of_no_body acks (readBody_of_no_end hb)
  | @tooLong body byte hn hl hb rest =>
    have hr : readBody (ending failure) _ _ = _ := readBody_of_full hn hb rest
    rw [hl] at hr
    rw [List.cons_append, List.append_assoc]
    exact readBytes_of_no_body acks hr
  | @noTrailer body trailer hb ht =>
    rw [List.append_nil, readBytes_of_body acks (readBody_append hb.1 hb.2 trailer)]
    rcases trailer with _ | ⟨high, _ | ⟨low, trailer⟩⟩
    · rfl
    · rfl
    · simp only [List.length_cons] at ht
      omega
  | badDigits hb ht rest => exact readBytes_of_check hb (check_of_no_trailer ht) acks rest
  | badSum hb ht hs rest => exact readBytes_of_check hb (check_of_bad_sum ht hs) acks rest
  | notText hb ht hu rest => exact readBytes_of_check hb (check_of_no_text ht hu) acks rest

theorem exists_body (bytes : List UInt8) :
    IsBody bytes ∨
      (∃ body byte rest, bytes = body ++ byte :: rest ∧ hash ∉ body ∧ body.length = maxBody ∧
        byte ≠ hash) ∨
      ∃ body rest, bytes = body ++ hash :: rest ∧ IsBody body := by
  by_cases hm : hash ∈ bytes.take (maxBody + 1)
  · obtain ⟨body, more, he, hn⟩ := List.eq_append_cons_of_mem hm
    have hl : (body ++ hash :: more).length ≤ maxBody + 1 := by
      rw [← he, List.length_take]
      exact Nat.min_le_left ..
    rw [List.length_append, List.length_cons] at hl
    refine .inr (.inr ⟨body, more ++ bytes.drop (maxBody + 1), ?_, hn, by omega⟩)
    rw [← List.cons_append, ← List.append_assoc, ← he, List.take_append_drop]
  · by_cases hl : bytes.length ≤ maxBody
    · rw [List.take_of_length_le (by omega)] at hm
      exact .inl ⟨hm, hl⟩
    · have hlt : maxBody < bytes.length := by omega
      rw [List.take_succ_eq_append_getElem hlt, List.mem_append, List.mem_singleton, not_or] at hm
      refine .inr (.inl ⟨_, _, bytes.drop (maxBody + 1), ?_, hm.1, ?_, Ne.symm hm.2⟩)
      · rw [List.getElem_cons_drop, List.take_append_drop]
      · rw [List.length_take, Nat.min_eq_left (Nat.le_of_lt hlt)]

theorem exists_acks (bytes : List UInt8) :
    ∃ acks front, bytes = List.replicate acks plus ++ front ∧ front.head? ≠ some plus := by
  induction bytes with
  | nil => exact ⟨0, [], rfl, by simp⟩
  | cons byte bytes ih =>
    by_cases hp : byte = plus
    · obtain ⟨acks, front, rfl, hf⟩ := ih
      exact ⟨acks + 1, front, by rw [hp]; rfl, hf⟩
    · exact ⟨0, byte :: bytes, rfl, by simpa using hp⟩

theorem isPacket_or_flaw (failure : Option Fault) (hb : IsBody body) (high low : UInt8)
    (rest : List UInt8) :
    (∃ text, body = Text.utf8 text ∧ Trailer high low (total (Text.utf8 text) % 256)) ∨
      ∃ error, Flaw failure (dollar :: (body ++ [hash, high, low])) rest error := by
  by_cases ht : ∀ n, ¬ Trailer high low n
  · exact .inr ⟨_, .badDigits hb ht rest⟩
  obtain ⟨n, ht⟩ := not_forall_not.mp ht
  by_cases hs : n = total body % 256
  · subst hs
    by_cases hu : ∀ text, Text.utf8 text ≠ body
    · exact .inr ⟨_, .notText hb ht hu rest⟩
    · obtain ⟨text, hu⟩ := not_forall_not.mp hu
      subst hu
      exact .inl ⟨text, rfl, ht⟩
  · have hn : (UInt8.ofNat n).toNat = n := by rw [UInt8.toNat_ofNat', Nat.mod_eq_of_lt ht.lt]
    rw [← hn] at ht hs
    exact .inr ⟨_, .badSum hb ht hs rest⟩

theorem start_isPacket_or_flaw (failure : Option Fault) (bytes : List UInt8) :
    (∃ text high low rest, bytes = Text.utf8 text ++ hash :: high :: low :: rest ∧
        IsBody (Text.utf8 text) ∧ Trailer high low (total (Text.utf8 text) % 256)) ∨
      ∃ taken rest error, dollar :: bytes = taken ++ rest ∧ Flaw failure taken rest error := by
  obtain hb | ⟨body, byte, rest, rfl, hn, hl, hb⟩ | ⟨body, rest, rfl, hb⟩ := exists_body bytes
  · exact .inr ⟨_, [], _, by simp, .noEnd hb⟩
  · exact .inr ⟨_, rest, _, by simp, .tooLong hn hl hb rest⟩
  · rcases rest with _ | ⟨high, _ | ⟨low, rest⟩⟩
    · exact .inr ⟨dollar :: (body ++ [hash]), [], _, by simp, .noTrailer hb (by simp)⟩
    · exact .inr ⟨dollar :: (body ++ [hash, high]), [], _, by simp, .noTrailer hb (by simp)⟩
    · obtain ⟨text, rfl, ht⟩ | ⟨error, h⟩ := isPacket_or_flaw failure hb high low rest
      · exact .inl ⟨text, high, low, rest, rfl, hb, ht⟩
      · exact .inr ⟨_, rest, error, by simp, h⟩

theorem exists_packet_or_flaw (failure : Option Fault) (bytes : List UInt8) :
    (∃ packet text rest, IsPacket packet text ∧ bytes = packet ++ rest) ∨
      ∃ acks taken rest error, bytes = List.replicate acks plus ++ (taken ++ rest) ∧
        Flaw failure taken rest error := by
  obtain ⟨acks, front, rfl, hp⟩ := exists_acks bytes
  rcases front with _ | ⟨byte, front⟩
  · exact .inr ⟨acks, [], [], _, rfl, .noStart⟩
  by_cases hm : byte = minus
  · exact .inr ⟨acks, [minus], front, _, by rw [hm]; rfl, .retransmission front⟩
  by_cases hd : byte = dollar
  · subst hd
    obtain ⟨text, high, low, rest, rfl, hb, ht⟩ | ⟨taken, rest, error, he, h⟩ :=
      start_isPacket_or_flaw failure front
    · exact .inl ⟨_, text, rest,
        ⟨acks, high, low, rfl, hb.1, hb.2, trailerValue?_checksum_iff.mpr ht⟩, by simp⟩
    · exact .inr ⟨acks, taken, rest, error, by rw [he], h⟩
  · have hp : byte ≠ plus := by simpa using hp
    exact .inr ⟨acks, [byte], front, _, rfl, .badStart hp hd hm front⟩

theorem readBytes_eq_error_iff :
    readBytes (ending failure) bytes = (.error error, rest) ↔
      ∃ acks taken, bytes = List.replicate acks plus ++ (taken ++ rest) ∧
        Flaw failure taken rest error := by
  constructor
  · intro h
    obtain ⟨packet, text, rest', hp, hb⟩ | ⟨acks, taken, rest', error', rfl, hd⟩ :=
      exists_packet_or_flaw failure bytes
    · rw [readBytes_eq_ok_iff.mpr ⟨packet, hp, hb⟩] at h
      simp at h
    · rw [readBytes_of_flaw hd] at h
      obtain ⟨he, rfl⟩ := Prod.mk.inj h
      cases he
      exact ⟨acks, taken, rfl, hd⟩
  · rintro ⟨acks, taken, rfl, hd⟩
    exact readBytes_of_flaw hd acks

/-- Reading takes so many bytes from the front of a source, with this result. -/
def Takes (source : Source) (count : Nat) (result : Except SessionError String) : Prop :=
  count ≤ source.bytes.length ∧
    read source = (result, { source with bytes := source.bytes.drop count })

variable {source : Source} {count : Nat} {result : Except SessionError String}

theorem takes_iff :
    Takes source count result ↔ ∃ front rest, source.bytes = front ++ rest ∧
      count = front.length ∧ readBytes (ending source.failure) source.bytes = (result, rest) := by
  constructor
  · rintro ⟨hl, hr⟩
    refine ⟨source.bytes.take count, source.bytes.drop count, ?_, ?_, ?_⟩
    · rw [List.take_append_drop]
    · rw [List.length_take, Nat.min_eq_left hl]
    · obtain ⟨hresult, hrest⟩ := Attempt.pair_eq_iff.mp hr
      exact Prod.ext hresult (congrArg Source.bytes hrest)
  · rintro ⟨front, rest, hb, rfl, hr⟩
    refine ⟨?_, ?_⟩
    · rw [hb, List.length_append]
      omega
    · simp only [read, hr]
      rw [hb, List.drop_left]

theorem Takes.unique {count' : Nat} {result' : Except SessionError String}
    (h : Takes source count result) (h' : Takes source count' result') :
    count = count' ∧ result = result' := by
  obtain ⟨front, rest, hb, rfl, hr⟩ := takes_iff.mp h
  obtain ⟨front', rest', hb', rfl, hr'⟩ := takes_iff.mp h'
  obtain ⟨rfl, rfl⟩ := Prod.mk.inj (hr.symm.trans hr')
  rw [List.append_cancel_right (hb.symm.trans hb')]
  exact ⟨rfl, rfl⟩

theorem takes_ok_iff :
    Takes source count (.ok text) ↔ ∃ acks high low rest,
      source.bytes = List.replicate acks plus ++
        (dollar :: (Text.utf8 text ++ [hash, high, low]) ++ rest) ∧
      count = acks + ((Text.utf8 text).length + 4) ∧ IsBody (Text.utf8 text) ∧
      Trailer high low (total (Text.utf8 text) % 256) := by
  rw [takes_iff]
  constructor
  · rintro ⟨front, rest, hb, rfl, hr⟩
    obtain ⟨packet, ⟨acks, high, low, rfl, hn, hl, ht⟩, he⟩ := readBytes_eq_ok_iff.mp hr
    obtain rfl := List.append_cancel_right (hb.symm.trans he)
    refine ⟨acks, high, low, rest, by rw [he, List.append_assoc], ?_, ⟨hn, hl⟩,
      trailerValue?_checksum_iff.mp ht⟩
    simp
  · rintro ⟨acks, high, low, rest, hb, rfl, hbody, ht⟩
    rw [← List.append_assoc] at hb
    refine ⟨_, rest, hb, ?_, readBytes_eq_ok_iff.mpr
      ⟨_, ⟨acks, high, low, rfl, hbody.1, hbody.2, trailerValue?_checksum_iff.mpr ht⟩, hb⟩⟩
    simp

theorem takes_error_iff :
    Takes source count (.error error) ↔ ∃ acks taken rest,
      source.bytes = List.replicate acks plus ++ (taken ++ rest) ∧
      count = acks + taken.length ∧ Flaw source.failure taken rest error := by
  rw [takes_iff]
  constructor
  · rintro ⟨front, rest, hb, rfl, hr⟩
    obtain ⟨acks, taken, he, hd⟩ := readBytes_eq_error_iff.mp hr
    rw [← List.append_assoc] at he
    obtain rfl := List.append_cancel_right (hb.symm.trans he)
    exact ⟨acks, taken, rest, hb.trans (List.append_assoc ..), by simp, hd⟩
  · rintro ⟨acks, taken, rest, hb, rfl, hd⟩
    have hr := readBytes_eq_error_iff.mpr ⟨acks, taken, hb, hd⟩
    rw [← List.append_assoc] at hb
    exact ⟨_, rest, hb, by simp, hr⟩

theorem Flaw.length_le (h : Flaw failure taken rest error) : taken.length ≤ maxBody + 4 := by
  cases h with
  | noStart => simp
  | retransmission => simp
  | badStart => simp
  | noEnd hb =>
    have := hb.2
    rw [List.length_cons]
    omega
  | tooLong hn hl hb =>
    simp only [List.length_cons, List.length_append, List.length_nil]
    omega
  | noTrailer hb ht =>
    have := hb.2
    simp only [List.length_cons, List.length_append]
    omega
  | badDigits hb | badSum hb | notText hb =>
    have := hb.2
    simp only [List.length_cons, List.length_append, List.length_nil]
    omega

theorem le_length_takeWhile (acks : Nat) (rest : List UInt8) :
    acks ≤ ((List.replicate acks plus ++ rest).takeWhile (· == plus)).length := by
  have ha : ∀ byte ∈ List.replicate acks plus, (byte == plus) = true := by
    intro byte hb
    rw [List.eq_of_mem_replicate hb]
    rfl
  rw [List.takeWhile_append_of_pos ha, List.length_append, List.length_replicate]
  exact Nat.le_add_right ..

theorem Takes.count_le (h : Takes source count result) :
    count ≤ (source.bytes.takeWhile (· == plus)).length + (maxBody + 4) := by
  cases result with
  | ok text =>
    obtain ⟨acks, high, low, rest, hb, rfl, hbody, -⟩ := takes_ok_iff.mp h
    rw [hb]
    exact Nat.add_le_add (le_length_takeWhile ..) (Nat.add_le_add_right hbody.2 4)
  | error error =>
    obtain ⟨acks, taken, rest, hb, rfl, hd⟩ := takes_error_iff.mp h
    rw [hb]
    exact Nat.add_le_add (le_length_takeWhile ..) hd.length_le

end Lockstep.Frame
