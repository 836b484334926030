import Lockstep.Proofs.Remote.Sequence

namespace Lockstep.Frame

/-- The frame of a text, with another byte at one place of its body. -/
def corrupted (text : String) (place : Nat) (byte : UInt8) : List UInt8 :=
  (Text.utf8 (ofText text)).set (place + 1) byte

variable {bytes : List UInt8} {i : Nat} {text : String}

theorem total_set (hi : i < bytes.length) (byte : UInt8) :
    total (bytes.set i byte) + bytes[i].toNat = total bytes + byte.toNat := by
  induction bytes generalizing i with
  | nil => exact absurd hi (Nat.not_lt_zero i)
  | cons first bytes ih =>
    cases i with
    | zero =>
      simp only [List.set_cons_zero, List.getElem_cons_zero, total]
      omega
    | succ i =>
      have := ih (Nat.lt_of_succ_lt_succ hi)
      simp only [List.set_cons_succ, List.getElem_cons_succ, total]
      omega

theorem checksum_set_eq_iff (hi : i < bytes.length) (byte : UInt8) :
    checksum (bytes.set i byte) = checksum bytes ↔ byte = bytes[i] := by
  have ht := total_set hi byte
  have hb := byte.toNat_lt
  have hb' := bytes[i].toNat_lt
  rw [← UInt8.toNat_inj, toNat_checksum, toNat_checksum, ← UInt8.toNat_inj]
  omega

theorem isBody_set {byte : UInt8} (hb : IsBody bytes) (hh : byte ≠ hash) :
    IsBody (bytes.set i byte) := by
  refine ⟨fun hm ↦ ?_, by simpa using hb.2⟩
  rcases List.mem_or_eq_of_mem_set hm with hm | hm
  · exact hb.1 hm
  · exact hh hm.symm

theorem corrupted_eq (hi : i < (Text.utf8 text).length) (byte : UInt8) :
    ∃ high low, Trailer high low (checksum (Text.utf8 text)).toNat ∧
      corrupted text i byte = dollar :: ((Text.utf8 text).set i byte ++ [hash, high, low]) := by
  refine ⟨_, _, trailerValue?_eq_some_iff.mp (trailerValue?_digitByte _), ?_⟩
  rw [corrupted, utf8_ofText, framed, List.set_cons_succ, List.set_append_left _ _ hi]

theorem read_corrupted (hf : Fits text) (hi : i < (Text.utf8 text).length) {byte : UInt8}
    (hne : byte ≠ (Text.utf8 text)[i]) (hh : byte ≠ hash) (acks : Nat) (unread : List UInt8)
    (failure : Option Fault) :
    read ⟨List.replicate acks plus ++ (corrupted text i byte ++ unread), failure⟩ =
      (.error (badChecksum (checksum (Text.utf8 text)) (checksum ((Text.utf8 text).set i byte))),
        ⟨unread, failure⟩) := by
  obtain ⟨high, low, ht, hc⟩ := corrupted_eq hi byte
  have hs : (checksum (Text.utf8 text)).toNat ≠ total ((Text.utf8 text).set i byte) % 256 := by
    rw [← toNat_checksum, ne_eq, UInt8.toNat_inj, eq_comm, checksum_set_eq_iff hi]
    exact hne
  have hb : IsBody ((Text.utf8 text).set i byte) := isBody_set (isBody_utf8_iff.mpr hf) hh
  -- The sums are compared before the body is taken for text, so it need not be valid UTF-8.
  have hr : readBytes (ending failure) _ = _ :=
    readBytes_of_check hb (check_of_bad_sum ht hs) acks unread
  rw [hc, read, hr]

/-- A wrong byte in the body of a frame is noticed wherever it stands and whatever it is, unless it
ends the body. The error names the two checksums, which differ, and the frame is gone from the
stream, so that all packets behind it are read. -/
theorem wrong_byte_detected (hf : Fits text) (hi : i < (Text.utf8 text).length) {byte : UInt8}
    (hne : byte ≠ (Text.utf8 text)[i]) (hh : byte ≠ hash) (acks : Nat) (failure : Option Fault) :
    checksum (Text.utf8 text) ≠ checksum ((Text.utf8 text).set i byte) ∧
    (∀ unread, read ⟨List.replicate acks plus ++ (corrupted text i byte ++ unread), failure⟩ =
      (.error (badChecksum (checksum (Text.utf8 text)) (checksum ((Text.utf8 text).set i byte))),
        ⟨unread, failure⟩)) ∧
    ∀ deliveries : List Delivery, (∀ delivery ∈ deliveries, Fits delivery.text) →
      ∀ j (hj : j < deliveries.length),
        read (afterReads ⟨List.replicate acks plus ++
          (corrupted text i byte ++ Delivery.stream deliveries), failure⟩ (j + 1)) =
          (.ok deliveries[j].text, ⟨Delivery.stream (deliveries.drop (j + 1)), failure⟩) := by
  have hr := fun unread ↦ read_corrupted hf hi hne hh acks unread failure
  refine ⟨?_, hr, fun deliveries hd j hj ↦ ?_⟩
  · rw [ne_comm, ne_eq, checksum_set_eq_iff hi]
    exact hne
  · rw [afterReads, hr]
    exact read_afterReads_stream hd hj

theorem wrong_byte_detected_in_character :
    let source : Source := ⟨corrupted "a\u00e9" 2 dollar ++ Delivery.stream [⟨1, "OK"⟩], none⟩
    Text.ofUtf8? ((Text.utf8 "a\u00e9").set 2 dollar) = none ∧
      read source = (.error (badChecksum 0xcd 0x48), ⟨Delivery.stream [⟨1, "OK"⟩], none⟩) ∧
      read (afterReads source 1) = (.ok "OK", ⟨[], none⟩) := by
  have hf : Fits "a\u00e9" := by decide
  have hi : 2 < (Text.utf8 "a\u00e9").length := by decide
  have hne : dollar ≠ (Text.utf8 "a\u00e9")[2] := by
    revert hi
    decide
  have hh : dollar ≠ hash := by decide
  have h := wrong_byte_detected hf hi hne hh 0 none
  have hc : checksum (Text.utf8 "a\u00e9") = 0xcd := by decide
  have hc' : checksum ((Text.utf8 "a\u00e9").set 2 dollar) = 0x48 := by decide
  rw [hc, hc'] at h
  exact ⟨by decide +kernel, h.2.1 _, h.2.2 [⟨1, "OK"⟩] (by decide) 0 (by decide)⟩

end Lockstep.Frame
