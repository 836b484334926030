import Lockstep.Text.Blank
import Mathlib.Data.List.DropRight

namespace Lockstep.Text

/-- Only white space stands around the core, which neither starts nor ends with any. -/
def TrimsTo (text core : List Char) : Prop :=
  ∃ before after, text = before ++ (core ++ after) ∧ (∀ c ∈ before, isBlank c = true) ∧
    (∀ c ∈ after, isBlank c = true) ∧ (∀ c ∈ core.head?, isBlank c = false) ∧
    ∀ c ∈ core.getLast?, isBlank c = false

theorem dropWhile_eq_self_of_head {α : Type} {p : α → Bool} {xs : List α}
    (h : ∀ x ∈ xs.head?, p x = false) : xs.dropWhile p = xs := by
  cases xs with
  | nil => rfl
  | cons x xs => rw [List.dropWhile_cons_of_neg (by simp [h x rfl])]

theorem trim_eq_rdropWhile (text : List Char) :
    trim text = (text.dropWhile isBlank).rdropWhile isBlank :=
  rfl

theorem trim_eq_nil_iff {text : List Char} : trim text = [] ↔ ∀ c ∈ text, isBlank c = true := by
  rw [trim_eq_rdropWhile, List.rdropWhile_eq_nil_iff]
  constructor
  · intro h
    have hd : (text.dropWhile isBlank).dropWhile isBlank = [] := List.dropWhile_eq_nil_iff.mpr h
    rw [List.dropWhile_idempotent] at hd
    exact List.dropWhile_eq_nil_iff.mp hd
  · exact fun h c hc ↦ h c ((List.dropWhile_sublist _).subset hc)

theorem trimsTo_trim (text : List Char) : TrimsTo text (trim text) := by
  refine ⟨text.takeWhile isBlank, (text.dropWhile isBlank).rtakeWhile isBlank, ?_, ?_, ?_, ?_, ?_⟩
  · rw [trim_eq_rdropWhile, List.rdropWhile_append_rtakeWhile, List.takeWhile_append_dropWhile]
  · exact fun c hc ↦ List.mem_takeWhile_imp hc
  · exact fun c hc ↦ List.mem_rtakeWhile_imp hc
  · intro c hc
    obtain ⟨rest, hr⟩ := List.rdropWhile_prefix isBlank (text.dropWhile isBlank)
    have hh : c ∈ (text.dropWhile isBlank).head? := by
      rw [trim_eq_rdropWhile, Option.mem_def] at hc
      rw [← hr, List.head?_append, hc]
      rfl
    have := List.head?_dropWhile_not isBlank text
    rw [Option.mem_def.mp hh] at this
    exact this
  · intro c hc
    obtain ⟨hn, rfl⟩ := List.mem_getLast?_eq_getLast hc
    exact eq_false_of_ne_true (List.rdropWhile_last_not isBlank _ hn)

/-- Trimming finds the only core of a text. -/
theorem trimsTo_iff {text core : List Char} : TrimsTo text core ↔ trim text = core := by
  constructor
  · rintro ⟨before, after, rfl, hb, ha, hhead, hlast⟩
    have hr : core.reverse.dropWhile isBlank = core.reverse :=
      dropWhile_eq_self_of_head (by rwa [List.head?_reverse])
    rw [trim, List.dropWhile_append_of_pos hb]
    by_cases hc : core = []
    · rw [hc, List.nil_append, List.dropWhile_eq_nil_iff.mpr ha]
      rfl
    · have hd : (core ++ after).dropWhile isBlank = core ++ after := by
        refine dropWhile_eq_self_of_head fun c h ↦ hhead c ?_
        rwa [List.head?_append_of_ne_nil _ hc] at h
      rw [hd, List.reverse_append, List.dropWhile_append_of_pos (by simpa using ha), hr,
        List.reverse_reverse]
  · rintro rfl
    exact trimsTo_trim text

theorem mem_of_trimsTo {text core : List Char} {c : Char} (h : TrimsTo text core)
    (hc : isBlank c = false) : c ∈ text ↔ c ∈ core := by
  obtain ⟨before, after, rfl, hb, ha, -⟩ := h
  have hnb : c ∉ before := fun hm ↦ by simp [hb c hm] at hc
  have hna : c ∉ after := fun hm ↦ by simp [ha c hm] at hc
  simp [hnb, hna]

theorem trim_of_not_blank {text : List Char} (h : ∀ c ∈ text, isBlank c = false) :
    trim text = text :=
  trimsTo_iff.mp ⟨[], [], by simp, by simp, by simp,
    fun c hc ↦ h c (List.mem_of_mem_head? hc), fun c hc ↦ h c (List.mem_of_mem_getLast? hc)⟩

end Lockstep.Text
