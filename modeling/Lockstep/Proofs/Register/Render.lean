import Lockstep.Proofs.Register.Field

namespace Lockstep.Registers

open Text

variable (registers : Registers)

theorem printable_of_mem_field {register : Register} {c : Char}
    (h : c ∈ registers.field register) : 33 ≤ c.toNat ∧ c.toNat < 127 := by
  rw [field] at h
  rcases List.mem_append.mp h with h | h
  · exact register.printable_of_mem_name h
  simp only [List.mem_cons] at h
  rcases h with rfl | rfl | rfl | h
  · decide
  · decide
  · decide
  · have := Hex.range_of_isDigit ((registers.get register).isDigit_of_mem_fullText h)
    omega

theorem not_blank_of_mem_field {register : Register} :
    ∀ c ∈ registers.field register, isBlank c = false := fun _ h ↦
  let ⟨hl, hu⟩ := registers.printable_of_mem_field h
  isBlank_of_printable hl hu

theorem assigns_field (register : Register) :
    Field.Assigns (registers.field register) register (registers.get register) := by
  have hb : ∀ c ∈ registers.field register, isBlank c = false := registers.not_blank_of_mem_field
  rw [field, List.forall_mem_append, List.forall_mem_cons] at hb
  obtain ⟨hname, hcolon, hvalue⟩ := hb
  have hd : ':' ∉ (registers.get register).fullText := fun h ↦
    absurd ((registers.get register).isDigit_of_mem_fullText h) (by decide)
  refine ⟨'0' :: 'x' :: (registers.get register).fullText,
    ⟨_, _, trimsTo_iff.mpr (trim_of_not_blank ?_), ?_, ?_,
      trimsTo_iff.mpr (trim_of_not_blank hname), trimsTo_iff.mpr (trim_of_not_blank hvalue), ?_,
      List.cons_ne_nil _ _⟩, Word.parse_fullText _⟩
  · exact List.forall_mem_append.mpr ⟨hname, List.forall_mem_cons.mpr ⟨hcolon, hvalue⟩⟩
  · cases register <;> decide
  · simpa using hd
  · cases register <;> simp [Register.name]

theorem words_render : words registers.render.toList = Register.all.map registers.field := by
  rw [render, String.toList_ofList, words_intercalate]
  simp only [List.forall_mem_map]
  exact fun register _ ↦ ⟨by simp [field], registers.not_blank_of_mem_field⟩

def toUpdate : Update := Bank.ofFn fun register ↦ some (registers.get register)

theorem get_toUpdate (register : Register) :
    registers.toUpdate.get register = some (registers.get register) :=
  Bank.get_ofFn ..

theorem apply_toUpdate (other : Registers) : other.apply registers.toUpdate = registers :=
  Bank.ext_get fun register ↦ by rw [get_apply, get_toUpdate, Option.getD_some]

theorem ofFields_fields :
    Update.ofFields (Register.all.map registers.field) = .ok registers.toUpdate := by
  have hs : ∀ field ∈ Register.all.map registers.field, Field.Sound field :=
    List.forall_mem_map.mpr fun register _ ↦ (registers.assigns_field register).sound
  obtain ⟨update, hu⟩ := Update.exists_foldlM_addField_iff.mpr hs
  have hg : ∀ register, update.get register = some (registers.get register) := by
    intro register
    have hl := Update.lastSet_of_ofFields hu register
    generalize update.get register = value at hl
    cases hl with
    | unset hn =>
      have hm := List.mem_map_of_mem (f := registers.field) (Register.mem_all register)
      exact absurd (registers.assigns_field register).names (hn _ hm)
    | @set before after field word hf ha hn =>
      have hm : field ∈ Register.all.map registers.field :=
        hf ▸ List.mem_append_right before List.mem_cons_self
      obtain ⟨other, -, rfl⟩ := List.mem_map.mp hm
      obtain ⟨rfl, rfl⟩ := ha.unique (registers.assigns_field other)
      rfl
  rw [Update.ofFields, hu]
  exact congrArg Except.ok (Bank.ext_get fun register ↦ by rw [hg, get_toUpdate])

theorem parse_render : parse registers.render = .ok registers := by
  rw [parse, words_render, mergeFields, ofFields_fields, merge_ok, apply_toUpdate]
  rfl

theorem render_inj {other : Registers} : other.render = registers.render ↔ other = registers := by
  constructor
  · intro h
    have hp := other.parse_render
    rw [h, parse_render] at hp
    exact (Except.ok.inj hp).symm
  · exact congrArg render

theorem blank_notMem_field {c : Char} (hc : isBlank c = true) (register : Register) :
    c ∉ registers.field register := fun h ↦
  absurd (registers.not_blank_of_mem_field c h) (by simp [hc])

theorem newline_notMem_render : '\n' ∉ registers.render.toList := by
  have hf : ∀ register, '\n' ∉ registers.field register :=
    registers.blank_notMem_field (by decide)
  simp [render, Register.all, List.intercalate, hf]

end Lockstep.Registers
