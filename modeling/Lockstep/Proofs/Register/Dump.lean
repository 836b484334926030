import Lockstep.Proofs.Register.Latest
import Lockstep.Proofs.Register.Word
import Lockstep.Proofs.Text.Words
import Lockstep.Register.Dump

namespace Lockstep

open Text

namespace Dump

variable {line value : List Char} {register : Register}

/-- The first word of the line is the name of the register, and the second one is its value. -/
def Shows (line : List Char) (register : Register) (value : List Char) : Prop :=
  ∃ behind rest, Leads line register.name.toList behind ∧ Leads behind value rest

def Names (line : List Char) (register : Register) : Prop :=
  ∃ value, Shows line register value

def Assigns (line : List Char) (register : Register) (word : Word) : Prop :=
  ∃ value, Shows line register value ∧ Word.parse value = .ok word

def Sound (line : List Char) : Prop :=
  ∀ (register : Register) (value : List Char), Shows line register value →
    ∃ word, Word.parse value = .ok word

theorem reading?_eq_some_iff : reading? line = some (register, value) ↔ Shows line register value := by
  constructor
  · intro h
    unfold reading? at h
    split at h
    · rename_i name value' list hw
      obtain ⟨named, hn, he⟩ := Option.map_eq_some_iff.mp h
      cases he
      obtain ⟨behind, hl, hb⟩ := words_eq_cons_iff.mp hw
      obtain ⟨rest, hv, -⟩ := words_eq_cons_iff.mp hb
      rw [← Register.ofName?_eq_some_iff.mp hn] at hl
      exact ⟨behind, rest, hl, hv⟩
    · cases h
  · intro h
    obtain ⟨behind, rest, hl, hv⟩ := h
    rw [reading?, hl.words_eq, hv.words_eq]
    dsimp only
    rw [Register.ofName?_name]
    rfl

theorem reading?_eq_none_iff : reading? line = none ↔
    ∀ (register : Register) (value : List Char), ¬ Shows line register value := by
  rw [Option.eq_none_iff_forall_ne_some]
  constructor
  · intro hn register value hs
    exact hn (register, value) (reading?_eq_some_iff.mpr hs)
  · intro hn reading hr
    exact hn reading.1 reading.2 (reading?_eq_some_iff.mp hr)

theorem Assigns.names {word : Word} (h : Assigns line register word) : Names line register :=
  let ⟨value, hs, _⟩ := h
  ⟨value, hs⟩

theorem Shows.unique {other : Register} {value' : List Char} (h : Shows line register value)
    (h' : Shows line other value') : register = other ∧ value = value' := by
  have he := (reading?_eq_some_iff.mpr h).symm.trans (reading?_eq_some_iff.mpr h')
  cases he
  exact ⟨rfl, rfl⟩

end Dump

namespace Update

variable {update next : Update} {line : List Char}

def addLine (update : Update) (line : List Char) : Except FieldError Update :=
  match Dump.reading? line with
  | some reading => update.addReading reading
  | none => .ok update

theorem ofDump_eq_foldlM (text : String) :
    ofDump text = (pieces (· == '\n') text.toList).foldlM addLine empty := by
  rw [ofDump, Dump.readings, List.foldlM_filterMap]
  congr 1
  funext update line
  rw [addLine]
  cases Dump.reading? line <;> rfl

theorem exists_addLine_iff (update : Update) (line : List Char) :
    (∃ next, update.addLine line = .ok next) ↔ Dump.Sound line := by
  rcases hr : Dump.reading? line with _ | ⟨register, value⟩
  · have hn := Dump.reading?_eq_none_iff.mp hr
    simp [addLine, hr, Dump.Sound, hn]
  · have hs := Dump.reading?_eq_some_iff.mp hr
    have ha : (∃ next, update.addLine line = .ok next) ↔ ∃ word, Word.parse value = .ok word := by
      rw [addLine, hr]
      dsimp only [addReading]
      cases Word.parse value <;> simp [Except.map]
    rw [ha]
    constructor
    · intro hw other value' h
      obtain ⟨-, rfl⟩ := hs.unique h
      exact hw
    · intro h
      exact h register value hs

theorem get_addLine (h : update.addLine line = .ok next) (register : Register) :
    (∃ word, Dump.Assigns line register word ∧ next.get register = some word) ∨
      ¬ Dump.Names line register ∧ next.get register = update.get register := by
  rw [addLine] at h
  rcases hr : Dump.reading? line with _ | ⟨named, value⟩
  · rw [hr] at h
    cases h
    refine .inr ⟨fun hn ↦ ?_, rfl⟩
    obtain ⟨value, hs⟩ := hn
    exact Dump.reading?_eq_none_iff.mp hr register value hs
  · have hs := Dump.reading?_eq_some_iff.mp hr
    rw [hr] at h
    dsimp only [addReading] at h
    cases hv : Word.parse value with
    | error error => simp [hv, Except.map] at h
    | ok word =>
      rw [hv] at h
      cases h
      obtain ⟨_, he, hg⟩ | ⟨hn, hg⟩ := update.get_write_cases (named, word) register
      · cases he
        exact .inl ⟨word, ⟨value, hs, hv⟩, hg⟩
      · refine .inr ⟨fun hn' ↦ ?_, hg⟩
        obtain ⟨value', hs'⟩ := hn'
        exact hn (hs.unique hs').1

end Update

end Lockstep
