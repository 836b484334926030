import Lockstep.Proofs.Register.Latest
import Lockstep.Proofs.Register.Word
import Lockstep.Proofs.Text.Words
import Lockstep.Register.Dump
import Lockstep.Remote.RegisterBlock

namespace Lockstep

def Registers.entries (registers : Registers) : List (Register × Word) :=
  Register.all.map fun register ↦ (register, registers.get register)

namespace RegisterBlock

def columns (entry : Register × Word) : List Char :=
  Text.padRight 15 entry.1.name.toList ++
    (Text.padRight 19 ('0' :: 'x' :: entry.2.shortText) ++ (toString entry.2.toNat).toList)

theorem printable_of_mem_value (word : Word) {c : Char} (h : c ∈ '0' :: 'x' :: word.shortText) :
    33 ≤ c.toNat ∧ c.toNat < 127 := by
  rcases List.mem_cons.mp h with rfl | h
  · decide
  rcases List.mem_cons.mp h with rfl | h
  · decide
  have hr := Hex.range_of_isDigit (word.isDigit_of_mem_shortText h)
  omega

theorem words_columns (entry : Register × Word) :
    Text.words (columns entry) =
      entry.1.name.toList :: ('0' :: 'x' :: entry.2.shortText) ::
        Text.words (toString entry.2.toNat).toList := by
  obtain ⟨register, word⟩ := entry
  have hl := word.length_shortText_le
  rw [columns, Text.words_padRight_append, Text.words_padRight_append]
  · simp
  · intro c hc
    obtain ⟨h, h'⟩ := printable_of_mem_value word hc
    exact Text.isBlank_of_printable h h'
  · simp only [List.length_cons]
    omega
  · cases register <;> simp [Register.name]
  · intro c hc
    obtain ⟨h, h'⟩ := register.printable_of_mem_name hc
    exact Text.isBlank_of_printable h h'
  · cases register <;> simp [Register.name]

theorem newline_of_mem_columns (entry : Register × Word) :
    ∀ c ∈ columns entry, (c == '\n') = false := by
  intro c hc
  have hn : c = ' ' ∨ 33 ≤ c.toNat := by
    simp only [columns, List.mem_append] at hc
    rcases hc with hc | hc | hc
    · exact (Text.mem_padRight hc).symm.imp_right fun h ↦ (Register.printable_of_mem_name _ h).1
    · exact (Text.mem_padRight hc).symm.imp_right fun h ↦ (printable_of_mem_value _ h).1
    · rw [Nat.toString_eq_repr, Nat.toList_repr] at hc
      have hd := Nat.isDigit_of_mem_toDigits (by decide) (by decide) hc
      exact .inr (Nat.le_trans (by decide) (Char.isDigit_iff_toNat.mp hd).1)
  rcases hn with rfl | hn
  · decide
  · rw [beq_eq_false_iff_ne]
    rintro rfl
    exact absurd hn (by decide)

theorem reading?_columns (entry : Register × Word) :
    Dump.reading? (columns entry) = some (entry.1, '0' :: 'x' :: entry.2.shortText) := by
  rw [Dump.reading?, words_columns]
  dsimp only
  rw [Register.ofName?_name]
  rfl

theorem readings_table (entries : List (Register × Word)) :
    Dump.readings (table entries).toList =
      entries.map fun entry ↦ (entry.1, '0' :: 'x' :: entry.2.shortText) := by
  have ht : (table entries).toList = entries.flatMap fun entry ↦ columns entry ++ ['\n'] := by
    rw [table, String.toList_ofList]
    refine congrArg entries.flatMap (funext fun entry ↦ ?_)
    simp only [tableLine, columns, List.append_assoc]
  have hr : Dump.reading? ∘ columns =
      some ∘ fun entry ↦ (entry.1, '0' :: 'x' :: entry.2.shortText) :=
    funext reading?_columns
  rw [Dump.readings, ht, Text.pieces_flatMap (by decide) newline_of_mem_columns,
    List.filterMap_append, List.filterMap_map, hr, List.filterMap_eq_map]
  exact List.append_nil _

theorem ofDump_table (entries : List (Register × Word)) :
    Update.ofDump (table entries) = .ok (Update.ofWrites entries) := by
  rw [Update.ofDump, readings_table, Update.ofWrites]
  generalize Update.empty = update
  induction entries generalizing update with
  | nil => rfl
  | cons entry entries ih =>
    rw [List.map_cons, List.foldlM_cons, Update.addReading, Word.parse_shortText]
    exact ih (update.write entry.1 entry.2)

/-- The table of a state is a dump that overwrites every register. -/
theorem mergeDump_table (live registers : Registers) :
    Registers.mergeDump (table registers.entries) live = (.ok (), registers) := by
  have hall : live.apply (.ofWrites registers.entries) = registers :=
    Bank.ext_get fun register ↦ by cases register <;> rfl
  rw [Registers.mergeDump, ofDump_table, Registers.merge_ok, hall]

end RegisterBlock

end Lockstep
