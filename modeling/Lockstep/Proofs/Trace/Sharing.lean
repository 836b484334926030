import Lockstep.Proofs.Trace.Reading

namespace Lockstep

/-- Two lists of lines with the same ones from one place on, as far as so many lines, and with
nothing unreadable before that place. -/
structure ShareLines (skip count : Nat) (lines lines' : List Line) : Prop where
  length_le : skip + count ≤ lines.length
  length_le' : skip + count ≤ lines'.length
  readable : ∀ line ∈ lines.take skip, line.isOk = true
  readable' : ∀ line ∈ lines'.take skip, line.isOk = true
  same : (lines.drop skip).take count = (lines'.drop skip).take count

theorem Advance.ofLines_of_readable {skip : Nat} {lines : List Line} (hl : skip ≤ lines.length)
    (hr : ∀ line ∈ lines.take skip, line.isOk = true) (line : Nat) :
    ofLines lines skip line = ofLines (lines.drop skip) 0 (line + skip) := by
  induction skip generalizing lines line with
  | zero => rfl
  | succ skip ih =>
    rcases lines with _ | ⟨head, lines⟩
    · simp at hl
    rw [List.take_succ_cons, List.forall_mem_cons] at hr
    rw [List.length_cons] at hl
    rcases head with fault | text
    · cases hr.1
    · rw [ofLines, ih (by omega) hr.2, List.drop_succ_cons, Nat.add_right_comm, Nat.add_assoc]

theorem ShareLines.exists_head {skip count : Nat} {lines lines' : List Line}
    (h : ShareLines skip (count + 1) lines lines') :
    ∃ head rest rest', lines.drop skip = head :: rest ∧ lines'.drop skip = head :: rest' ∧
      ShareLines 0 count rest rest' := by
  have hl := h.length_le
  have hl' := h.length_le'
  have hs := h.same
  have hd : lines.drop skip = lines[skip] :: lines.drop (skip + 1) :=
    List.drop_eq_getElem_cons (by omega)
  have hd' : lines'.drop skip = lines'[skip] :: lines'.drop (skip + 1) :=
    List.drop_eq_getElem_cons (by omega)
  rw [hd, hd', List.take_succ_cons, List.take_succ_cons] at hs
  obtain ⟨hhead, hs⟩ := List.cons.inj hs
  refine ⟨_, _, _, hd, hhead ▸ hd', ?_, ?_, by simp, by simp, hs⟩
  · rw [List.length_drop]
    omega
  · rw [List.length_drop]
    omega

namespace Cursor

/-- Two cursors with the same counts and with the same lines to come, as far as so many. Of the
lines that are left to a finished cursor nothing is said. -/
structure Shares (count : Nat) (cursor other : Cursor) : Prop where
  window_eq : cursor.window = other.window
  line_eq : cursor.line = other.line
  emitted_eq : cursor.emitted = other.emitted
  finished_eq : cursor.finished = other.finished
  toSkip_eq : cursor.toSkip = other.toSkip
  lines : cursor.finished = false → ShareLines cursor.toSkip count cursor.rest other.rest

variable {cursor other : Cursor} {count : Nat}

theorem shares_ofSource {source source' : Source} {window : Window}
    (h : ShareLines window.skip count source.lines source'.lines) :
    Shares count (ofSource source window) (ofSource source' window) :=
  ⟨rfl, rfl, rfl, rfl, rfl, fun _ ↦ h⟩

theorem Shares.next (h : Shares (count + 1) cursor other) :
    cursor.next.1 = other.next.1 ∧ Shares count cursor.next.2 other.next.2 := by
  obtain ⟨hw, hline, he, hf, ht, hs⟩ := h
  rcases cursor with ⟨lines, window, toSkip, line, emitted, finished⟩
  rcases other with ⟨lines', _, _, _, _, _⟩
  subst hw hline he hf ht
  cases finished with
  | true => exact ⟨rfl, rfl, rfl, rfl, rfl, rfl, by simp [Cursor.next]⟩
  | false =>
    cases hfull : window.isFull emitted with
    | true =>
      simp only [Cursor.next, hfull]
      exact ⟨rfl, rfl, rfl, rfl, rfl, rfl, by simp⟩
    | false =>
      have hs := hs rfl
      obtain ⟨head, rest, rest', hd, hd', htail⟩ := hs.exists_head
      have ha := Advance.ofLines_of_readable (by have := hs.length_le; omega) hs.readable line
      have ha' := Advance.ofLines_of_readable (by have := hs.length_le'; omega) hs.readable' line
      rw [hd] at ha
      rw [hd'] at ha'
      simp only [Cursor.next, hfull, ha, ha']
      rcases head with fault | text
      · exact ⟨rfl, rfl, rfl, rfl, rfl, rfl, by simp [Advance.ofLines]⟩
      · simp only [Advance.ofLines]
        cases Record.parse (line + toSkip + 1) text with
        | error error => exact ⟨rfl, rfl, rfl, rfl, rfl, rfl, by simp⟩
        | ok record => exact ⟨rfl, rfl, rfl, rfl, rfl, rfl, fun _ ↦ htail⟩

theorem Shares.after (h : Shares count cursor other) {n : Nat} (hn : n ≤ count) :
    Shares (count - n) (cursor.after n) (other.after n) := by
  induction n generalizing cursor other count with
  | zero => exact h
  | succ n ih =>
    obtain ⟨count, rfl⟩ := Nat.exists_eq_add_of_le' (Nat.one_le_of_lt hn)
    have hi := ih h.next.2 (by omega)
    rwa [Nat.add_sub_add_right]

theorem Shares.result_eq (h : Shares count cursor other) {n : Nat} (hn : n < count) :
    cursor.result n = other.result n := by
  have ha := h.after (Nat.le_of_lt hn)
  have hc : count - n = count - n - 1 + 1 := by omega
  rw [hc] at ha
  exact ha.next.1

theorem Shares.take_items (h : Shares count cursor other) :
    cursor.items.take count = other.items.take count := by
  refine List.ext_getElem? fun n ↦ ?_
  by_cases hn : n < count
  · rw [List.getElem?_take_of_lt hn, List.getElem?_take_of_lt hn, ← result_eq_items,
      ← result_eq_items, h.result_eq hn]
  · rw [List.getElem?_take_eq_none (by omega), List.getElem?_take_eq_none (by omega)]

theorem length_items_le_of_ready (h : cursor.Ready) {limit : Nat}
    (hl : cursor.window.limit = some limit) : cursor.emitted + cursor.items.length ≤ limit := by
  induction h using Ready.induct with
  | full cursor h hf hn =>
    rw [items_of_next_none hn]
    exact h.fits limit hl
  | ended cursor h hf hr hn =>
    rw [items_of_next_none hn]
    exact h.fits limit hl
  | unreadable cursor fault rest h hf hr hn =>
    have hlt : cursor.emitted < limit := by simpa [Window.isFull, hl] using hf
    rw [items_of_next_error hn]
    exact hlt
  | malformed cursor text error rest h hf hs hr hp hn =>
    have hlt : cursor.emitted < limit := by simpa [Window.isFull, hl] using hf
    rw [items_of_next_error hn]
    exact hlt
  | record cursor next text record h hf hs hr hp hw hline he hn _ ih =>
    have hi := ih (hw ▸ hl)
    rw [items_of_next_ok hn, List.length_cons]
    omega
  | skipped cursor next text h hf hs hr hw hline he hn _ ih =>
    rw [items_of_next_eq hn, ← he]
    exact ih (hw ▸ hl)

theorem length_items_le_of_result {call : Nat}
    (h : ∀ record, cursor.result call ≠ some (.ok record)) : cursor.items.length ≤ call + 1 := by
  rw [← List.getElem?_eq_none_iff, ← result_eq_items, result,
    next_of_finished (finished_after_of_result h (Nat.lt_succ_self call))]

theorem items_eq_of_take_items (h : cursor.items.take count = other.items.take count) {call : Nat}
    (hc : call < count) (he : ∀ record, cursor.result call ≠ some (.ok record)) :
    cursor.items = other.items := by
  have hr : cursor.result call = other.result call := by
    rw [result_eq_items, result_eq_items, ← List.getElem?_take_of_lt hc, h,
      List.getElem?_take_of_lt hc]
  have hl := length_items_le_of_result he
  have hl' := length_items_le_of_result (fun record ↦ hr ▸ he record)
  rwa [List.take_of_length_le (by omega), List.take_of_length_le (by omega)] at h

theorem result_length_records (cursor : Cursor) (record : Record) :
    cursor.result cursor.records.length ≠ some (.ok record) := by
  rw [result_eq_items, items_eq_append, List.getElem?_append_right (by simp), List.length_map,
    Nat.sub_self]
  cases cursor.failure? <;> simp

theorem records_of_take_items (h : cursor.items.take count = other.items.take count)
    {earlier later : List Record} {record : Record}
    (hr : cursor.records = earlier ++ record :: later) (hc : earlier.length < count) :
    ∃ later', other.records = earlier ++ record :: later' := by
  have hp : (earlier ++ [record]).map .ok <+: cursor.items.take count := by
    rw [List.prefix_take_iff, items_eq_append, hr]
    constructor
    · exact ⟨later.map .ok ++ (cursor.failure?.map .error).toList, by simp⟩
    · simpa using Nat.succ_le_of_lt hc
  rw [h] at hp
  obtain ⟨rest, hrest⟩ := (hp.trans (List.take_prefix ..)).filterMap Except.toOption
  refine ⟨rest, ?_⟩
  rw [records, ← hrest, List.filterMap_map]
  simp [Function.comp_def, Except.toOption]

end Cursor

end Lockstep
