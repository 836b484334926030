namespace Lockstep.Text

def utf8 (text : String) : List UInt8 :=
  text.toUTF8.data.toList

def ofUtf8? (bytes : List UInt8) : Option String :=
  String.fromUTF8? ⟨bytes.toArray⟩

theorem utf8_append (a b : String) : utf8 (a ++ b) = utf8 a ++ utf8 b := by
  simp [utf8]

theorem ofUtf8?_utf8 (text : String) : ofUtf8? (utf8 text) = some text := by
  have valid : (ByteArray.mk (utf8 text).toArray).IsValidUTF8 := by
    simpa [utf8] using text.isValidUTF8
  rw [ofUtf8?, String.fromUTF8?, dif_pos valid, Option.some_inj, String.ext_iff]
  simp [utf8, String.fromUTF8]

theorem utf8_of_ofUtf8? {bytes : List UInt8} {text : String} (h : ofUtf8? bytes = some text) :
    utf8 text = bytes := by
  unfold ofUtf8? String.fromUTF8? at h
  split at h
  · simp only [Option.some.injEq] at h
    simp [utf8, ← h, String.fromUTF8]
  · simp at h

end Lockstep.Text
