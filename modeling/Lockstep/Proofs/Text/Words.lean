import Lockstep.Text.Blank
import Mathlib.Data.List.TakeWhile

namespace Lockstep.Text

variable {α : Type} {p : α → Bool}

theorem pieces_eq_splitOnP (p : α → Bool) (xs : List α) : pieces p xs = xs.splitOnP p := by
  induction xs with
  | nil => rfl
  | cons x xs ih => rw [pieces, List.splitOnP_cons_eq_if_modifyHead, ih]

theorem pieces_append_cons {xs : List α} {x : α} (hn : ∀ y ∈ xs, p y = false) (hx : p x = true)
    (rest : List α) : pieces p (xs ++ x :: rest) = xs :: pieces p rest := by
  induction xs with
  | nil => simp [pieces, hx]
  | cons y xs ih =>
    have hy : p y = false := hn y List.mem_cons_self
    have hr := ih fun z hz ↦ hn z (List.mem_cons_of_mem y hz)
    simp [pieces, hy, hr]

theorem pieces_append (xs : List α) {x : α} (hx : p x = true) (rest : List α) :
    pieces p (xs ++ x :: rest) = pieces p xs ++ pieces p rest := by
  induction xs with
  | nil => simp [pieces, hx]
  | cons y xs ih =>
    obtain ⟨first, more, hp⟩ := List.exists_cons_of_ne_nil (pieces_ne_nil p xs)
    rw [List.cons_append, pieces, pieces, ih, hp]
    split <;> rfl

theorem pieces_flatMap {β : Type} {line : β → List α} {x : α} (hx : p x = true)
    (hn : ∀ b, ∀ y ∈ line b, p y = false) (bs : List β) :
    pieces p (bs.flatMap fun b ↦ line b ++ [x]) = bs.map line ++ [[]] := by
  induction bs with
  | nil => rfl
  | cons b bs ih =>
    rw [List.flatMap_cons, List.append_assoc, List.singleton_append,
      pieces_append_cons (hn b) hx, ih]
    rfl

theorem eq_false_of_mem_pieces {xs piece : List α}
    (h : piece ∈ pieces p xs) : ∀ x ∈ piece, p x = false := by
  induction xs generalizing piece with
  | nil =>
    obtain rfl := List.mem_singleton.mp h
    exact List.forall_mem_nil _
  | cons x xs ih =>
    unfold pieces at h
    split at h
    · rcases List.mem_cons.mp h with rfl | h
      · exact List.forall_mem_nil _
      · exact ih h
    · rename_i hx
      obtain ⟨first, rest, hp⟩ := List.exists_cons_of_ne_nil (pieces_ne_nil p xs)
      rw [hp, List.modifyHead_cons] at h
      rw [hp] at ih
      rcases List.mem_cons.mp h with rfl | h
      · exact List.forall_mem_cons.mpr
          ⟨eq_false_of_ne_true hx, ih List.mem_cons_self⟩
      · exact ih (List.mem_cons_of_mem _ h)

/-- The text consists of the parts with a mark between, which is in none of them. -/
def Separates (mark : Char) (text : List Char) (parts : List (List Char)) : Prop :=
  parts ≠ [] ∧ (∀ part ∈ parts, mark ∉ part) ∧ [mark].intercalate parts = text

theorem separates_pieces (mark : Char) (text : List Char) :
    Separates mark text (pieces (· == mark) text) := by
  refine ⟨pieces_ne_nil _ _, fun part hp hm ↦ ?_, ?_⟩
  · simpa using eq_false_of_mem_pieces hp mark hm
  · rw [pieces_eq_splitOnP]
    exact List.intercalate_splitOn mark

theorem separates_iff {mark : Char} {text : List Char} {parts : List (List Char)} :
    Separates mark text parts ↔ pieces (· == mark) text = parts := by
  constructor
  · rintro ⟨hn, hm, rfl⟩
    rw [pieces_eq_splitOnP]
    exact List.splitOn_intercalate mark hm hn
  · rintro rfl
    exact separates_pieces mark text

theorem isBlank_of_printable {c : Char} (h : 33 ≤ c.toNat) (h' : c.toNat < 127) :
    isBlank c = false := by
  simp only [isBlank, blankRanges, List.any_cons, List.any_nil, Bool.or_false, Bool.or_eq_false_iff,
    Bool.and_eq_false_iff, decide_eq_false_iff_not]
  omega

theorem mem_padRight {width : Nat} {text : List Char} {c : Char} (h : c ∈ padRight width text) :
    c ∈ text ∨ c = ' ' := by
  rcases List.mem_append.mp h with h | h
  · exact .inl h
  · exact .inr (List.eq_of_mem_replicate h)

theorem words_cons_of_blank {c : Char} (hc : isBlank c = true) (rest : List Char) :
    words (c :: rest) = words rest := by
  simp [words, pieces, hc]

/-- The first word of a text, up to white space or the end, and what stands behind it. -/
def Leads (text word rest : List Char) : Prop :=
  ∃ before, text = before ++ (word ++ rest) ∧ (∀ c ∈ before, isBlank c = true) ∧ word ≠ [] ∧
    (∀ c ∈ word, isBlank c = false) ∧ ∀ c ∈ rest.head?, isBlank c = true

theorem words_append_of_blank {before : List Char} (h : ∀ c ∈ before, isBlank c = true)
    (rest : List Char) : words (before ++ rest) = words rest := by
  induction before with
  | nil => rfl
  | cons c before ih =>
    obtain ⟨hc, hb⟩ := List.forall_mem_cons.mp h
    rw [List.cons_append, words_cons_of_blank hc, ih hb]

theorem words_of_blank {text : List Char} (h : ∀ c ∈ text, isBlank c = true) : words text = [] := by
  rw [← List.append_nil text, words_append_of_blank h]
  rfl

theorem Leads.words_eq {text word rest : List Char} (h : Leads text word rest) :
    words text = word :: words rest := by
  obtain ⟨before, rfl, hb, hn, hw, hr⟩ := h
  rw [words_append_of_blank hb]
  cases rest with
  | nil =>
    have hp : pieces isBlank word = [word] := by
      rw [pieces_eq_splitOnP, List.splitOnP_eq_singleton hw]
    rw [List.append_nil, words, hp, List.filter_cons_of_pos (by simpa using hn)]
    rfl
  | cons c rest =>
    have hc : isBlank c = true := hr c rfl
    rw [words_cons_of_blank hc, words, pieces_append_cons hw hc,
      List.filter_cons_of_pos (by simpa using hn)]
    rfl

theorem blank_or_leads (text : List Char) :
    (∀ c ∈ text, isBlank c = true) ∨ ∃ word rest, Leads text word rest := by
  rcases hd : text.dropWhile isBlank with _ | ⟨c, core⟩
  · exact .inl (List.dropWhile_eq_nil_iff.mp hd)
  · have hc : isBlank c = false := by
      have := List.head?_dropWhile_not isBlank text
      rwa [hd] at this
    refine .inr ⟨(c :: core).takeWhile (!isBlank ·), (c :: core).dropWhile (!isBlank ·),
      text.takeWhile isBlank, ?_, fun d h ↦ List.mem_takeWhile_imp h, ?_, fun d h ↦ ?_, fun d h ↦ ?_⟩
    · rw [List.takeWhile_append_dropWhile, ← hd, List.takeWhile_append_dropWhile]
    · rw [List.takeWhile_cons_of_pos (by simp [hc])]
      exact List.cons_ne_nil _ _
    · simpa using List.mem_takeWhile_imp h
    · have := List.head?_dropWhile_not (!isBlank ·) (c :: core)
      rw [Option.mem_def.mp h] at this
      simpa using this

theorem words_eq_cons_iff {text word : List Char} {list : List (List Char)} :
    words text = word :: list ↔ ∃ rest, Leads text word rest ∧ words rest = list := by
  constructor
  · intro h
    obtain hb | ⟨first, rest, hl⟩ := blank_or_leads text
    · rw [words_of_blank hb] at h
      cases h
    · rw [hl.words_eq, List.cons.injEq] at h
      obtain ⟨rfl, hr⟩ := h
      exact ⟨rest, hl, hr⟩
  · rintro ⟨rest, hl, rfl⟩
    exact hl.words_eq

theorem words_intercalate {list : List (List Char)}
    (h : ∀ word ∈ list, word ≠ [] ∧ ∀ c ∈ word, isBlank c = false) :
    words ([' '].intercalate list) = list := by
  induction list with
  | nil => rfl
  | cons word list ih =>
    obtain ⟨⟨hn, hw⟩, hl⟩ := List.forall_mem_cons.mp h
    cases list with
    | nil =>
      have hlead : Leads ([' '].intercalate [word]) word [] :=
        ⟨[], by simp, List.forall_mem_nil _, hn, hw, by simp⟩
      exact hlead.words_eq
    | cons next list =>
      have hlead : Leads ([' '].intercalate (word :: next :: list)) word
          (' ' :: [' '].intercalate (next :: list)) :=
        ⟨[], by simp [List.intercalate_cons_cons], List.forall_mem_nil _, hn, hw, by
          simp only [List.head?_cons, Option.mem_some_iff]
          rintro _ rfl
          decide⟩
      rw [hlead.words_eq, words_cons_of_blank (by decide), ih hl]

theorem words_padRight_append {width : Nat} {word : List Char} (hn : word ≠ [])
    (hw : ∀ c ∈ word, isBlank c = false) (hl : word.length < width) (rest : List Char) :
    words (padRight width word ++ rest) = word :: words rest := by
  have hb : ∀ c ∈ List.replicate (width - word.length) ' ', isBlank c = true := by
    intro c hc
    rw [List.eq_of_mem_replicate hc]
    decide
  have hlead : Leads (padRight width word ++ rest) word
      (List.replicate (width - word.length) ' ' ++ rest) := by
    refine ⟨[], List.append_assoc .., List.forall_mem_nil _, hn, hw, fun c hc ↦ hb c ?_⟩
    obtain ⟨k, hk⟩ : ∃ k, width - word.length = k + 1 := ⟨width - word.length - 1, by omega⟩
    rw [hk] at hc ⊢
    exact List.mem_of_mem_head? hc
  rw [hlead.words_eq, words_append_of_blank hb]

end Lockstep.Text
