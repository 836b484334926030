import Lockstep.Trace.Cursor

namespace Lockstep.Cursor

theorem items_of_next_none {cursor after : Cursor} (h : cursor.next = (none, after)) :
    cursor.items = [] := by
  rw [items]
  split <;> simp_all

theorem items_of_next_error {cursor after : Cursor} {error : TraceError}
    (h : cursor.next = (some (.error error), after)) : cursor.items = [.error error] := by
  rw [items]
  split <;> simp_all

theorem items_of_next_ok {cursor after : Cursor} {record : Record}
    (h : cursor.next = (some (.ok record), after)) :
    cursor.items = .ok record :: after.items := by
  rw [items]
  split <;> simp_all

/-- The records that are still to come. -/
def records (cursor : Cursor) : List Record :=
  cursor.items.filterMap Except.toOption

/-- The error that ends the records, if there is one. -/
def failure? (cursor : Cursor) : Option TraceError :=
  cursor.items.findSome? fun
    | .error error => some error
    | .ok _ => none

theorem records_of_next_none {cursor after : Cursor} (h : cursor.next = (none, after)) :
    cursor.records = [] := by
  rw [records, items_of_next_none h, List.filterMap_nil]

theorem records_of_next_error {cursor after : Cursor} {error : TraceError}
    (h : cursor.next = (some (.error error), after)) : cursor.records = [] := by
  rw [records, items_of_next_error h]
  rfl

theorem records_of_next_ok {cursor after : Cursor} {record : Record}
    (h : cursor.next = (some (.ok record), after)) :
    cursor.records = record :: after.records := by
  simp [records, items_of_next_ok h, Except.toOption]

theorem failure?_of_next_none {cursor after : Cursor} (h : cursor.next = (none, after)) :
    cursor.failure? = none := by
  rw [failure?, items_of_next_none h, List.findSome?_nil]

theorem failure?_of_next_error {cursor after : Cursor} {error : TraceError}
    (h : cursor.next = (some (.error error), after)) : cursor.failure? = some error := by
  rw [failure?, items_of_next_error h]
  rfl

theorem failure?_of_next_ok {cursor after : Cursor} {record : Record}
    (h : cursor.next = (some (.ok record), after)) : cursor.failure? = after.failure? := by
  simp [failure?, items_of_next_ok h]

theorem items_eq_append (cursor : Cursor) :
    cursor.items = cursor.records.map .ok ++ (cursor.failure?.map .error).toList := by
  fun_induction items cursor with
  | case1 cursor after h =>
    rw [records_of_next_none h, failure?_of_next_none h]
    rfl
  | case2 cursor error after h =>
    rw [records_of_next_error h, failure?_of_next_error h]
    rfl
  | case3 cursor record after h ih =>
    rw [records_of_next_ok h, failure?_of_next_ok h, List.map_cons, List.cons_append, ← ih]

theorem next_eq_error_iff (cursor : Cursor) (error : TraceError) :
    cursor.next.1 = some (.error error) ↔
      cursor.records = [] ∧ cursor.failure? = some error := by
  rcases h : cursor.next with ⟨_ | (error' | record), after⟩
  · simp [records_of_next_none h, failure?_of_next_none h]
  · simp [records_of_next_error h, failure?_of_next_error h]
  · simp [records_of_next_ok h]

/-- Every line taken is a skipped one or an emitted one. -/
def Counts (cursor : Cursor) : Prop :=
  cursor.line + cursor.toSkip = cursor.window.skip + cursor.emitted

theorem counts_ofSource (source : Source) (window : Window) : (ofSource source window).Counts := by
  simp [Counts, ofSource]

theorem line_of_taken {lines rest : List Line} {toSkip line line' : Nat} {text : String}
    (h : Advance.ofLines lines toSkip line = .taken line' text rest) :
    line' = line + toSkip + 1 := by
  induction lines generalizing toSkip line with
  | nil => simp [Advance.ofLines] at h
  | cons head tail ih =>
    cases head with
    | error fault => simp [Advance.ofLines] at h
    | ok text =>
      cases toSkip with
      | zero =>
        simp only [Advance.ofLines, Advance.taken.injEq] at h
        omega
      | succ n =>
        have hn := ih h
        omega

theorem line_of_parse {line : Nat} {text : String} {record : Record}
    (h : Record.parse line text = .ok record) : record.line = line := by
  unfold Record.parse at h
  split at h
  · cases h
  split at h
  · cases h
  split at h
  · cases h
  · cases h
    rfl

theorem Counts.of_next_ok {cursor after : Cursor} {record : Record} (hc : cursor.Counts)
    (h : cursor.next = (some (.ok record), after)) :
    after.Counts ∧ after.window = cursor.window ∧ after.emitted = cursor.emitted + 1 ∧
      record.line = cursor.window.skip + cursor.emitted + 1 := by
  unfold Counts at hc ⊢
  unfold next at h
  split at h
  · simp at h
  split at h
  · simp at h
  split at h
  · simp at h
  · simp at h
  · rename_i line text rest htaken
    have hline := line_of_taken htaken
    split at h
    · rename_i record' hparse
      have hrecord := line_of_parse hparse
      simp only [Prod.mk.injEq, Option.some.injEq, Except.ok.injEq] at h
      obtain ⟨rfl, rfl⟩ := h
      refine ⟨?_, rfl, rfl, ?_⟩
      · dsimp only
        omega
      · omega
    · simp at h

theorem Counts.line_of_records {cursor : Cursor} (hc : cursor.Counts) {i : Nat} {record : Record}
    (h : cursor.records[i]? = some record) :
    record.line = cursor.window.skip + cursor.emitted + i + 1 := by
  fun_induction items cursor generalizing i with
  | case1 cursor after hn => simp [records_of_next_none hn] at h
  | case2 cursor error after hn => simp [records_of_next_error hn] at h
  | case3 cursor head after hn ih =>
    obtain ⟨hc', hw, he, hl⟩ := hc.of_next_ok hn
    rw [records_of_next_ok hn] at h
    cases i with
    | zero =>
      simp only [List.getElem?_cons_zero, Option.some.injEq] at h
      simp [← h, hl]
    | succ i =>
      rw [List.getElem?_cons_succ] at h
      have hi := ih hc' h
      rw [hw, he] at hi
      omega

theorem line_of_records_ofSource {source : Source} {window : Window} {i : Nat} {record : Record}
    (h : (ofSource source window).records[i]? = some record) :
    record.line = window.skip + i + 1 :=
  (counts_ofSource source window).line_of_records h

end Lockstep.Cursor
