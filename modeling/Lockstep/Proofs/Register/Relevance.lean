import Lockstep.Proofs.Register.Dump

namespace Lockstep

open Text

namespace Dump

variable {line value : List Char} {register : Register}

def Refused (line : List Char) (error : FieldError) : Prop :=
  ∃ register value, Shows line register value ∧ Word.parse value = .error error

/-- The line is blank, or leads with another word than a name, or has nothing behind the name. -/
inductive Idle (line : List Char) : Prop
  | blank (hb : ∀ c ∈ line, isBlank c = true)
  | other {word rest : List Char} (hl : Leads line word rest)
      (hn : ∀ register : Register, word ≠ register.name.toList)
  | bare {register : Register} {rest : List Char} (hl : Leads line register.name.toList rest)
      (hr : ∀ c ∈ rest, isBlank c = true)

/-- The second list is the first one with idle lines put in anywhere. -/
inductive Pads : List (List Char) → List (List Char) → Prop
  | nil : Pads [] []
  | keep (line : List Char) {lines padded : List (List Char)} (h : Pads lines padded) :
      Pads (line :: lines) (line :: padded)
  | put {line : List Char} {lines padded : List (List Char)} (hi : Idle line) (hn : '\n' ∉ line)
      (h : Pads lines padded) : Pads lines (line :: padded)

theorem Shows.words_eq (h : Shows line register value) :
    ∃ rest, words line = register.name.toList :: value :: words rest := by
  obtain ⟨behind, rest, hl, hv⟩ := h
  exact ⟨rest, by rw [hl.words_eq, hv.words_eq]⟩

theorem idle_iff : Idle line ↔ ∀ (register : Register) (value : List Char),
    ¬ Shows line register value := by
  constructor
  · intro hi register value hs
    obtain ⟨rest, hw⟩ := hs.words_eq
    cases hi with
    | blank hb =>
      rw [words_of_blank hb] at hw
      cases hw
    | other hl hn =>
      rw [hl.words_eq] at hw
      exact hn register (List.cons.inj hw).1
    | bare hl hr =>
      rw [hl.words_eq, words_of_blank hr] at hw
      cases (List.cons.inj hw).2
  · intro hn
    obtain hb | ⟨word, rest, hl⟩ := blank_or_leads line
    · exact .blank hb
    by_cases hw : ∃ register : Register, word = register.name.toList
    · obtain ⟨register, rfl⟩ := hw
      obtain hr | ⟨value, behind, hv⟩ := blank_or_leads rest
      · exact .bare hl hr
      · exact absurd ⟨rest, behind, hl, hv⟩ (hn register value)
    · exact .other hl fun register he ↦ hw ⟨register, he⟩

theorem Idle.reading?_eq (h : Idle line) : reading? line = none :=
  reading?_eq_none_iff.mpr (idle_iff.mp h)

theorem Pads.newline_notMem {lines padded : List (List Char)} (h : Pads lines padded) :
    (∀ line ∈ lines, '\n' ∉ line) ↔ ∀ line ∈ padded, '\n' ∉ line := by
  induction h with
  | nil => exact Iff.rfl
  | keep line _ ih => rw [List.forall_mem_cons, List.forall_mem_cons, ih]
  | put hi hn _ ih => rw [List.forall_mem_cons, ih, and_iff_right hn]

end Dump

namespace Update

variable {lines : List (List Char)} {error : FieldError}

/-- Where both updates set a register, the later one wins. -/
def overriddenBy (earlier later : Update) : Update :=
  Bank.ofFn fun register ↦ (later.get register).or (earlier.get register)

theorem overriddenBy_empty (update : Update) : update.overriddenBy empty = update := by
  apply Bank.ext_get
  intro register
  rw [overriddenBy, empty, Bank.get_ofFn, Bank.get_ofFn, Option.none_or]

theorem overriddenBy_write (earlier later : Update) (register : Register) (value : Word) :
    earlier.overriddenBy (later.write register value) =
      (earlier.overriddenBy later).write register value := by
  apply Bank.ext_get
  intro other
  simp only [overriddenBy, write, Bank.get_ofFn, Bank.get_set]
  split
  · exact Option.some_or
  · rfl

theorem addLine_overriddenBy (earlier later : Update) (line : List Char) :
    (earlier.overriddenBy later).addLine line = (later.addLine line).map earlier.overriddenBy := by
  rcases hr : Dump.reading? line with _ | ⟨register, value⟩
  · simp only [addLine, hr, Except.map]
  · simp only [addLine, hr, addReading]
    cases Word.parse value with
    | error error => simp only [Except.map]
    | ok word => simp only [Except.map, overriddenBy_write]

theorem foldlM_addLine_overriddenBy (earlier later : Update) (lines : List (List Char)) :
    lines.foldlM addLine (earlier.overriddenBy later) =
      (lines.foldlM addLine later).map earlier.overriddenBy := by
  induction lines generalizing later with
  | nil => rfl
  | cons line lines ih =>
    rw [List.foldlM_cons, List.foldlM_cons, addLine_overriddenBy]
    cases later.addLine line with
    | error error => rfl
    | ok next => exact ih next

theorem addLine_eq_error_iff (update : Update) (line : List Char) :
    update.addLine line = .error error ↔ Dump.Refused line error := by
  rcases hr : Dump.reading? line with _ | ⟨register, value⟩
  · have hn := Dump.reading?_eq_none_iff.mp hr
    simp [addLine, hr, Dump.Refused, hn]
  · have hs := Dump.reading?_eq_some_iff.mp hr
    have ha : update.addLine line = .error error ↔ Word.parse value = .error error := by
      rw [addLine, hr]
      dsimp only [addReading]
      cases Word.parse value <;> simp [Except.map]
    rw [ha]
    constructor
    · intro he
      exact ⟨register, value, hs, he⟩
    · rintro ⟨other, value', hs', he⟩
      obtain ⟨-, rfl⟩ := hs.unique hs'
      exact he

theorem foldlM_addLine_of_pads {lines padded : List (List Char)} (h : Dump.Pads lines padded)
    (update : Update) : padded.foldlM addLine update = lines.foldlM addLine update := by
  induction h generalizing update with
  | nil => rfl
  | keep line _ ih =>
    rw [List.foldlM_cons, List.foldlM_cons]
    exact congrArg _ (funext ih)
  | put hi hn _ ih =>
    rw [List.foldlM_cons, addLine, hi.reading?_eq]
    exact ih update

theorem ofDump_intercalate (h : ∀ line ∈ lines, '\n' ∉ line) :
    ofDump (String.ofList (['\n'].intercalate lines)) = lines.foldlM addLine empty := by
  rw [ofDump_eq_foldlM, String.toList_ofList]
  by_cases hn : lines = []
  · subst hn
    rfl
  · rw [separates_iff.mp ⟨hn, h, rfl⟩]

theorem ofDump_append (text other : String) :
    ofDump (text ++ "\n" ++ other) = do
      let earlier ← ofDump text
      let later ← ofDump other
      return earlier.overriddenBy later := by
  have hl : (text ++ "\n" ++ other).toList = text.toList ++ '\n' :: other.toList := by simp
  have hp : pieces (· == '\n') (text.toList ++ '\n' :: other.toList) =
      pieces (· == '\n') text.toList ++ pieces (· == '\n') other.toList :=
    pieces_append _ (by decide) _
  simp only [ofDump_eq_foldlM, hl, hp, List.foldlM_append]
  cases (pieces (· == '\n') text.toList).foldlM addLine empty with
  | error error => rfl
  | ok earlier =>
    have h := foldlM_addLine_overriddenBy earlier empty (pieces (· == '\n') other.toList)
    rw [overriddenBy_empty] at h
    exact h

end Update

/-- Every dump, read by its lines. -/
theorem dump_by_lines (text : String) :
    ∃ lines, (∀ parts, Separates '\n' text.toList parts ↔ parts = lines) ∧
      ((∃ update, Update.ofDump text = .ok update) ↔ ∀ line ∈ lines, Dump.Sound line) ∧
      (∀ update, Update.ofDump text = .ok update → ∀ register,
        Latest (Dump.Names · register) (Dump.Assigns · register) lines (update.get register)) ∧
      (∀ error, Update.ofDump text = .error error ↔ ∃ before bad after,
        lines = before ++ bad :: after ∧ (∀ line ∈ before, Dump.Sound line) ∧
          Dump.Refused bad error) ∧
      (∀ others, Dump.Pads lines others ∨ Dump.Pads others lines →
        Update.ofDump (String.ofList (['\n'].intercalate others)) = Update.ofDump text) ∧
      ∀ other, Update.ofDump (text ++ "\n" ++ other) = do
        let earlier ← Update.ofDump text
        let later ← Update.ofDump other
        return earlier.overriddenBy later := by
  have hnewline : ∀ line ∈ pieces (· == '\n') text.toList, '\n' ∉ line :=
    (separates_pieces '\n' text.toList).2.1
  refine ⟨pieces (· == '\n') text.toList, fun parts ↦ separates_iff.trans eq_comm, ?_, ?_, ?_, ?_,
    Update.ofDump_append text⟩
  · rw [Update.ofDump_eq_foldlM]
    exact exists_foldlM_iff Update.exists_addLine_iff
  · intro update h register
    rw [Update.ofDump_eq_foldlM] at h
    exact Update.latest_of_foldlM (fun _ _ _ ha ↦ Update.get_addLine ha register) h
  · intro error
    rw [Update.ofDump_eq_foldlM]
    exact foldlM_eq_error_iff Update.exists_addLine_iff Update.addLine_eq_error_iff
  · intro others h
    obtain h | h := h
    · rw [Update.ofDump_intercalate (h.newline_notMem.mp hnewline), Update.ofDump_eq_foldlM]
      exact Update.foldlM_addLine_of_pads h .empty
    · rw [Update.ofDump_intercalate (h.newline_notMem.mpr hnewline), Update.ofDump_eq_foldlM]
      exact (Update.foldlM_addLine_of_pads h .empty).symm

example : Update.ofDump "hl\x0b1\r\nime 2\naf\n hl 0x3 4" =
    .ok (Update.ofWrites [(.hl, 3)]) := rfl

end Lockstep
