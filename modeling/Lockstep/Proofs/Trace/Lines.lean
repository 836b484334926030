import Lockstep.Proofs.Text.Words
import Lockstep.Trace.Source

namespace Lockstep

inductive Line.OfBytes (bytes : List UInt8) : Line → Prop
  | text {text : String} (h : Text.utf8 text = bytes) : OfBytes bytes (.ok text)
  | invalid (h : ∀ text, Text.utf8 text ≠ bytes) : OfBytes bytes (.error .invalidText)

namespace Source

/-- Each line ends in a line feed, which may have one carriage return before it. At a clean end the
last line may do without, and a failure takes the place of what stands behind the last line feed. -/
inductive HasLines (failure : Option Fault) : List UInt8 → List Line → Prop
  | feed {bytes rest : List UInt8} {line : Line} {lines : List Line} (hn : lineFeed ∉ bytes)
      (hr : bytes.getLast? ≠ some carriageReturn) (hl : Line.OfBytes bytes line)
      (ht : HasLines failure rest lines) :
      HasLines failure (bytes ++ lineFeed :: rest) (line :: lines)
  | returnFeed {bytes rest : List UInt8} {line : Line} {lines : List Line} (hn : lineFeed ∉ bytes)
      (hl : Line.OfBytes bytes line) (ht : HasLines failure rest lines) :
      HasLines failure (bytes ++ carriageReturn :: lineFeed :: rest) (line :: lines)
  | failed {rest : List UInt8} {fault : Fault} (hf : failure = some fault)
      (hn : lineFeed ∉ rest) : HasLines failure rest [.error fault]
  | ended (hf : failure = none) : HasLines failure [] []
  | unterminated {rest : List UInt8} {line : Line} (hf : failure = none) (hn : lineFeed ∉ rest)
      (he : rest ≠ []) (hl : Line.OfBytes rest line) : HasLines failure rest [line]

variable {failure : Option Fault} {bytes rest : List UInt8} {line : Line} {lines : List Line}

theorem ofBytes_iff : Line.OfBytes bytes line ↔ line = lineOf bytes := by
  unfold lineOf
  cases h : Text.ofUtf8? bytes with
  | none =>
    have hn : ∀ text, Text.utf8 text ≠ bytes := by
      intro text ht
      rw [← ht, Text.ofUtf8?_utf8] at h
      cases h
    constructor
    · intro hl
      cases hl with
      | text ht => exact absurd ht (hn _)
      | invalid => rfl
    · intro hl
      exact hl ▸ .invalid hn
  | some text =>
    have ht := Text.utf8_of_ofUtf8? h
    constructor
    · intro hl
      cases hl with
      | @text other ho =>
        rw [← ho, Text.ofUtf8?_utf8] at h
        exact congrArg _ (Option.some.inj h)
      | invalid hn => exact absurd ht (hn text)
    · intro hl
      exact hl ▸ .text ht

theorem dropReturn_of_ne (h : bytes.getLast? ≠ some carriageReturn) : dropReturn bytes = bytes :=
  if_neg h

theorem dropReturn_concat (bytes : List UInt8) : dropReturn (bytes ++ [carriageReturn]) = bytes := by
  simp [dropReturn]

theorem lines_append_feed (hn : lineFeed ∉ bytes) (rest : List UInt8) :
    (Source.mk (bytes ++ lineFeed :: rest) failure).lines =
      lineOf (dropReturn bytes) :: (Source.mk rest failure).lines := by
  have hp : ∀ byte ∈ bytes, (byte == lineFeed) = false := by
    intro byte hb
    exact beq_eq_false_iff_ne.mpr fun he ↦ hn (he ▸ hb)
  have hs := Text.pieces_append_cons hp (beq_self_eq_true lineFeed) rest
  obtain ⟨piece, pieces, he⟩ :=
    List.exists_cons_of_ne_nil (Text.pieces_ne_nil (· == lineFeed) rest)
  simp only [lines, hs, he, List.dropLast_cons_cons, List.map_cons, List.cons_append,
    List.getLastD_cons]

theorem lines_of_notMem (hn : lineFeed ∉ bytes) :
    (Source.mk bytes failure).lines = lastLine bytes failure := by
  have hp : Text.pieces (· == lineFeed) bytes = [bytes] := by
    induction bytes with
    | nil => rfl
    | cons byte bytes ih =>
      rw [List.mem_cons, not_or] at hn
      have hb : (byte == lineFeed) = false := beq_eq_false_iff_ne.mpr (Ne.symm hn.1)
      simp [Text.pieces, hb, ih hn.2]
  simp [lines, hp]

theorem HasLines.eq (h : HasLines failure bytes lines) : lines = (Source.mk bytes failure).lines := by
  induction h with
  | feed hn hr hl _ ih =>
    rw [lines_append_feed hn, dropReturn_of_ne hr, ih, ofBytes_iff.mp hl]
  | @returnFeed bytes rest line lines hn hl _ ih =>
    have hn' : lineFeed ∉ bytes ++ [carriageReturn] := by
      have hne : lineFeed ≠ carriageReturn := by decide
      simp [hn, hne]
    have hb : bytes ++ carriageReturn :: lineFeed :: rest =
        (bytes ++ [carriageReturn]) ++ lineFeed :: rest := by simp
    rw [hb, lines_append_feed hn', dropReturn_concat, ih, ofBytes_iff.mp hl]
  | failed hf hn =>
    rw [lines_of_notMem hn, hf]
    rfl
  | ended hf =>
    rw [hf]
    rfl
  | unterminated hf hn he hl =>
    rw [lines_of_notMem hn, hf, ofBytes_iff.mp hl]
    simp [lastLine, he]

theorem hasLines_of_notMem (hn : lineFeed ∉ bytes) :
    HasLines failure bytes (lastLine bytes failure) := by
  cases failure with
  | some fault => exact .failed rfl hn
  | none =>
    by_cases he : bytes = []
    · subst he
      exact .ended rfl
    · simpa [lastLine, he] using HasLines.unterminated rfl hn he (ofBytes_iff.mpr rfl)

theorem HasLines.append_feed (hn : lineFeed ∉ bytes) (h : HasLines failure rest lines) :
    HasLines failure (bytes ++ lineFeed :: rest) (lineOf (dropReturn bytes) :: lines) := by
  by_cases hr : bytes.getLast? = some carriageReturn
  · obtain ⟨front, rfl⟩ := List.getLast?_eq_some_iff.mp hr
    rw [dropReturn_concat]
    have hf : lineFeed ∉ front := fun hm ↦ hn (List.mem_append_left _ hm)
    simpa using HasLines.returnFeed hf (ofBytes_iff.mpr rfl) h
  · rw [dropReturn_of_ne hr]
    exact .feed hn hr (ofBytes_iff.mpr rfl) h

theorem hasLines_lines (failure : Option Fault) (bytes : List UInt8) :
    HasLines failure bytes (Source.mk bytes failure).lines := by
  by_cases hm : lineFeed ∈ bytes
  · obtain ⟨front, rest, rfl, hn⟩ := List.eq_append_cons_of_mem hm
    rw [lines_append_feed hn]
    exact (hasLines_lines failure rest).append_feed hn
  · rw [lines_of_notMem hm]
    exact hasLines_of_notMem hm
termination_by bytes.length
decreasing_by
  subst_vars
  simp only [List.length_append, List.length_cons]
  omega

theorem hasLines_iff : HasLines failure bytes lines ↔ lines = (Source.mk bytes failure).lines :=
  ⟨HasLines.eq, fun h ↦ h ▸ hasLines_lines failure bytes⟩

theorem error_mem_lines {fault : Fault} (bytes : List UInt8) :
    .error fault ∈ (Source.mk bytes (some fault)).lines := by
  simp [lines, lastLine]

end Source

end Lockstep
