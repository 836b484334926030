import Lockstep.Proofs.Register.Render
import Lockstep.Proofs.Trace.Grammar

namespace Lockstep

namespace Text

variable {mark other : Char} {text : List Char} {parts : List (List Char)}

def replace (mark other : Char) (text : List Char) : List Char :=
  text.map fun c ↦ if c = mark then other else c

theorem replace_of_notMem (h : mark ∉ text) : replace mark other text = text := by
  have hid : ∀ c ∈ text, (if c = mark then other else c) = c := by
    intro c hc
    refine if_neg fun he ↦ h ?_
    rwa [← he]
  rw [replace, List.map_congr_left hid, List.map_id']

theorem replace_append (xs ys : List Char) :
    replace mark other (xs ++ ys) = replace mark other xs ++ replace mark other ys :=
  List.map_append

theorem replace_intercalate (h : ∀ part ∈ parts, mark ∉ part) :
    replace mark other ([mark].intercalate parts) = [other].intercalate parts := by
  induction parts with
  | nil => rfl
  | cons part parts ih =>
    rw [List.forall_mem_cons] at h
    cases parts with
    | nil => simpa using replace_of_notMem h.1
    | cons next parts =>
      have hm : replace mark other [mark] = [other] := by simp [replace]
      rw [List.intercalate_cons_cons, List.intercalate_cons_cons, replace_append, replace_append,
        replace_of_notMem h.1, hm, ih h.2]

theorem Separates.replace (h : Separates mark text parts) (ho : ∀ part ∈ parts, other ∉ part) :
    Separates other (replace mark other text) parts := by
  obtain ⟨hn, hm, rfl⟩ := h
  exact ⟨hn, ho, (replace_intercalate hm).symm⟩

end Text

namespace Registers

variable (registers : Registers)

def recordText : String := String.ofList (Text.replace ' ' ',' registers.render.toList)

theorem comma_notMem_field (register : Register) : ',' ∉ registers.field register := by
  have hd : ',' ∉ (registers.get register).fullText := fun h ↦
    absurd ((registers.get register).isDigit_of_mem_fullText h) (by decide)
  cases register <;> simpa [field, Register.name] using hd

theorem separates_render :
    Text.Separates ' ' registers.render.toList (Register.all.map registers.field) :=
  ⟨by simp [Register.all],
    List.forall_mem_map.mpr fun register _ ↦ registers.blank_notMem_field (by decide) register,
    by rw [render, String.toList_ofList]⟩

theorem separates_recordText :
    Text.Separates ',' registers.recordText.toList (Register.all.map registers.field) := by
  rw [recordText, String.toList_ofList]
  exact registers.separates_render.replace
    (List.forall_mem_map.mpr fun register _ ↦ registers.comma_notMem_field register)

theorem mergeFields_fields (other : Registers) :
    mergeFields (Register.all.map registers.field) other = (.ok (), registers) := by
  rw [mergeFields, ofFields_fields, merge_ok, apply_toUpdate]

theorem parse_recordText (line : Nat) :
    ∃ record, Record.parse line registers.recordText = .ok record ∧ record.line = line ∧
      record.update = registers.toUpdate := by
  have hf : Text.pieces (· == ',') registers.recordText.toList = Register.all.map registers.field :=
    Text.separates_iff.mp registers.separates_recordText
  have hb : ∃ c ∈ registers.recordText.toList, Text.isBlank c = false := by
    refine ⟨':', ?_, by decide⟩
    rw [← registers.separates_recordText.2.2]
    simp [Register.all, List.intercalate, field]
  have hu := registers.ofFields_fields
  rw [← hf] at hu
  obtain h | ⟨hn, -⟩ := Record.parse_of_fields hb hu
  · exact h
  · cases hn

/-- From its display text a state is read back, its fields turn any other state into it, and with
commas for spaces they are a record that sets every register to its value. So different states are
displayed differently. -/
theorem display_carries_state :
    parse registers.render = .ok registers ∧
    (∃ fields, (∀ parts, Text.Separates ' ' registers.render.toList parts ↔ parts = fields) ∧
      ∀ other : Registers, mergeFields fields other = (.ok (), registers)) ∧
    (∀ line, ∃ record, Record.parse line registers.recordText = .ok record ∧ record.line = line ∧
      ∀ register, record.update.get register = some (registers.get register)) ∧
    ∀ other : Registers, other.render = registers.render ↔ other = registers := by
  refine ⟨registers.parse_render, ⟨Register.all.map registers.field, fun parts ↦ ?_,
    registers.mergeFields_fields⟩, fun line ↦ ?_, fun other ↦ registers.render_inj⟩
  · rw [Text.separates_iff, Text.separates_iff.mp registers.separates_render]
    exact eq_comm
  · obtain ⟨record, hr, hl, hu⟩ := registers.parse_recordText line
    exact ⟨record, hr, hl, fun register ↦ by rw [hu, get_toUpdate]⟩

end Registers

end Lockstep
