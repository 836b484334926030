import Lockstep.Proofs.Register.Field
import Lockstep.Trace.Golden

namespace Lockstep

open Text

/-- What is wrong with a line that has these fields. -/
inductive Defective (text : List Char) (fields : List (List Char)) : Defect → Prop
  | blank (hb : ∀ c ∈ text, isBlank c = true) : Defective text fields .blank
  | field {before after : List (List Char)} {bad : List Char} {error : FieldError}
      (hb : ∃ c ∈ text, isBlank c = false) (hf : fields = before ++ bad :: after)
      (hs : ∀ field ∈ before, Field.Sound field) (he : Field.Flawed bad error) :
      Defective text fields (.field error)
  | missingPc (hb : ∃ c ∈ text, isBlank c = false) (hs : ∀ field ∈ fields, Field.Sound field)
      (hp : ∀ field ∈ fields, ¬ Field.Names field .pc) : Defective text fields .missingPc

/-- What makes a line with these fields a record. -/
structure Regular (text : List Char) (fields : List (List Char)) : Prop where
  not_blank : ∃ c ∈ text, isBlank c = false
  sound : ∀ field ∈ fields, Field.Sound field
  names_pc : ∃ field ∈ fields, Field.Names field .pc

theorem regular_or_defective (text : List Char) (fields : List (List Char)) :
    Regular text fields ∨ ∃ defect, Defective text fields defect := by
  by_cases hb : ∀ c ∈ text, isBlank c = true
  · exact .inr ⟨_, .blank hb⟩
  replace hb : ∃ c ∈ text, isBlank c = false := by simpa using hb
  cases hu : Update.ofFields fields with
  | error error =>
    obtain ⟨before, bad, after, hf, hs, he⟩ := Update.foldlM_addField_eq_error_iff.mp hu
    exact .inr ⟨_, .field hb hf hs he⟩
  | ok update =>
    have hs := Update.exists_foldlM_addField_iff.mp ⟨update, hu⟩
    by_cases hp : ∃ field ∈ fields, Field.Names field .pc
    · exact .inl ⟨hb, hs, hp⟩
    · exact .inr ⟨_, .missingPc hb hs fun field hf hn ↦ hp ⟨field, hf, hn⟩⟩

namespace Record

variable {line : Nat} {text : String} {record : Record} {defect : Defect}

theorem not_isEmpty_trim (h : ∃ c ∈ text.toList, isBlank c = false) :
    ¬ (trim text.toList).isEmpty = true := by
  rw [List.isEmpty_iff, trim_eq_nil_iff]
  simpa using h

theorem parse_of_bad_fields {error : FieldError} (hb : ∃ c ∈ text.toList, isBlank c = false)
    (hu : Update.ofFields (pieces (· == ',') text.toList) = .error error) :
    parse line text = .error (.malformed line (.field error)) := by
  unfold parse
  rw [if_neg (not_isEmpty_trim hb), hu]

theorem parse_of_fields {update : Update} (hb : ∃ c ∈ text.toList, isBlank c = false)
    (hu : Update.ofFields (pieces (· == ',') text.toList) = .ok update) :
    (∃ record, parse line text = .ok record ∧ record.line = line ∧ record.update = update) ∨
      update.pc = none ∧ parse line text = .error (.malformed line .missingPc) := by
  unfold parse
  rw [if_neg (not_isEmpty_trim hb), hu]
  dsimp only
  split
  · rename_i hp
    exact .inr ⟨hp, rfl⟩
  · exact .inl ⟨_, rfl, rfl, rfl⟩

theorem pc_eq_none_iff {fields : List (List Char)} {update : Update}
    (h : Update.ofFields fields = .ok update) :
    update.pc = none ↔ ∀ field ∈ fields, ¬ Field.Names field .pc :=
  (Update.lastSet_of_ofFields h .pc).eq_none_iff

theorem parse_of_defective (h : Defective text.toList (pieces (· == ',') text.toList) defect) :
    parse line text = .error (.malformed line defect) := by
  cases h with
  | blank hb =>
    unfold parse
    rw [if_pos (List.isEmpty_iff.mpr (trim_eq_nil_iff.mpr hb))]
  | field hb hf hs he =>
    exact parse_of_bad_fields hb (Update.foldlM_addField_eq_error_iff.mpr ⟨_, _, _, hf, hs, he⟩)
  | missingPc hb hs hp =>
    obtain ⟨update, hu⟩ := Update.exists_foldlM_addField_iff.mpr hs
    rcases parse_of_fields hb hu with ⟨record, -, -, rfl⟩ | ⟨-, h⟩
    · have hn := (pc_eq_none_iff hu).mpr hp
      rw [record.sets_pc] at hn
      cases hn
    · exact h

theorem parse_of_regular (h : Regular text.toList (pieces (· == ',') text.toList)) :
    ∃ record, parse line text = .ok record ∧ record.line = line ∧ ∀ register,
      Update.LastSet (pieces (· == ',') text.toList) register (record.update.get register) := by
  obtain ⟨hb, hs, field, hf, hn⟩ := h
  obtain ⟨update, hu⟩ := Update.exists_foldlM_addField_iff.mpr hs
  rcases parse_of_fields hb hu with ⟨record, hr, hl, rfl⟩ | ⟨hp, -⟩
  · exact ⟨record, hr, hl, Update.lastSet_of_ofFields hu⟩
  · exact absurd hn ((pc_eq_none_iff hu).mp hp field hf)

theorem exists_parse_iff :
    (∃ record, parse line text = .ok record) ↔
      Regular text.toList (pieces (· == ',') text.toList) := by
  constructor
  · rintro ⟨record, hr⟩
    rcases regular_or_defective text.toList (pieces (· == ',') text.toList) with h | ⟨defect, h⟩
    · exact h
    · cases hr.symm.trans (parse_of_defective h)
  · intro h
    obtain ⟨record, hr, -⟩ := parse_of_regular h
    exact ⟨record, hr⟩

theorem parse_eq_error_iff {error : TraceError} :
    parse line text = .error error ↔ ∃ defect, error = .malformed line defect ∧
      Defective text.toList (pieces (· == ',') text.toList) defect := by
  constructor
  · intro he
    rcases regular_or_defective text.toList (pieces (· == ',') text.toList) with h | ⟨defect, h⟩
    · obtain ⟨record, hr⟩ := exists_parse_iff.mpr h
      cases hr.symm.trans he
    · exact ⟨defect, Except.error.inj (he.symm.trans (parse_of_defective h)), h⟩
  · rintro ⟨defect, rfl, h⟩
    exact parse_of_defective h

theorem lastSet_of_parse (h : parse line text = .ok record) : record.line = line ∧ ∀ register,
    Update.LastSet (pieces (· == ',') text.toList) register (record.update.get register) := by
  obtain ⟨other, ho, hl⟩ := parse_of_regular (exists_parse_iff.mp ⟨record, h⟩)
  obtain rfl := Except.ok.inj (ho.symm.trans h)
  exact hl

end Record

/-- Every line, read by its fields. -/
theorem record_grammar (line : Nat) (text : String) :
    ∃ fields, (∀ parts, Separates ',' text.toList parts ↔ parts = fields) ∧
      ((∃ record, Record.parse line text = .ok record) ↔
        (∃ c ∈ text.toList, isBlank c = false) ∧
        (∀ field ∈ fields, ∃ name value, Field.Pairs field name value) ∧
        (∀ field ∈ fields, ∀ (register : Register) (value : List Char),
          Field.Pairs field register.name.toList value → ∃ word, Word.parse value = .ok word) ∧
        ∃ field ∈ fields, Field.Names field .pc) ∧
      (∀ record, Record.parse line text = .ok record → record.line = line ∧
        (∀ register, Update.LastSet fields register (record.update.get register)) ∧
        Update.LastSet fields .pc (some record.pc)) ∧
      ∀ error, Record.parse line text = .error error ↔
        ∃ defect, error = .malformed line defect ∧ Defective text.toList fields defect := by
  refine ⟨pieces (· == ',') text.toList, fun parts ↦ separates_iff.trans eq_comm, ?_, ?_,
    fun error ↦ Record.parse_eq_error_iff⟩
  · rw [Record.exists_parse_iff]
    constructor
    · intro h
      exact ⟨h.not_blank, fun field hf ↦ (h.sound field hf).1,
        fun field hf ↦ (h.sound field hf).2, h.names_pc⟩
    · rintro ⟨hb, hp, hv, hn⟩
      exact ⟨hb, fun field hf ↦ ⟨hp field hf, hv field hf⟩, hn⟩
  · intro record h
    obtain ⟨hl, hs⟩ := Record.lastSet_of_parse h
    refine ⟨hl, hs, ?_⟩
    rw [← record.sets_pc]
    exact hs .pc

example : Record.parse 3 "af:1x0,,pc" = .error (.malformed 3 (.field (.invalidHex "1x0"))) := rfl

end Lockstep
