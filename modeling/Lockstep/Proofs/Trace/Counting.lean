import Lockstep.Proofs.Trace.Reading
import Lockstep.Trace.Storage

namespace Lockstep

namespace Source

variable {lines : List Line} {counted n : Nat}

theorem countLines_of_ok (h : ∀ line ∈ lines, line.isOk = true) (counted : Nat) :
    countLines lines counted = .ok (counted + lines.length) := by
  induction lines generalizing counted with
  | nil => rfl
  | cons head lines ih =>
    rw [List.forall_mem_cons] at h
    rcases head with fault | text
    · cases h.1
    · rw [countLines, ih h.2, List.length_cons, Nat.add_right_comm, Nat.add_assoc]

theorem countLines_eq_ok_iff :
    countLines lines counted = .ok n ↔
      (∀ line ∈ lines, line.isOk = true) ∧ n = counted + lines.length := by
  constructor
  · intro h
    have hok : ∀ line ∈ lines, line.isOk = true := by
      fun_induction countLines lines counted with
      | case1 => simp
      | case2 text rest counted ih =>
        rw [List.forall_mem_cons]
        exact ⟨rfl, ih h⟩
      | case3 => cases h
    rw [countLines_of_ok hok] at h
    exact ⟨hok, (Except.ok.inj h).symm⟩
  · intro h
    rw [countLines_of_ok h.1, h.2]

end Source

theorem Record.error_of_parse {line : Nat} {text : String} {error : TraceError}
    (h : Record.parse line text = .error error) : ∃ defect, error = .malformed line defect := by
  unfold Record.parse at h
  split at h
  · exact ⟨_, (Except.error.inj h).symm⟩
  split at h
  · exact ⟨_, (Except.error.inj h).symm⟩
  split at h
  · exact ⟨_, (Except.error.inj h).symm⟩
  · cases h

namespace Cursor

variable {cursor : Cursor}

def remaining (cursor : Cursor) : Window :=
  ⟨cursor.toSkip, cursor.window.limit.map (· - cursor.emitted)⟩

theorem remaining_ofSource (source : Source) (window : Window) :
    (ofSource source window).remaining = window := by
  rcases window with ⟨skip, _ | limit⟩ <;> rfl

theorem count_remaining_of_full (h : cursor.window.isFull cursor.emitted = true) (lines : Nat) :
    cursor.remaining.count lines = 0 := by
  unfold Window.isFull at h
  rw [Window.count, remaining]
  cases hl : cursor.window.limit with
  | none => simp [hl] at h
  | some limit =>
    have hle : limit ≤ cursor.emitted := by simpa [hl] using h
    simp only [Option.map_some]
    omega

theorem count_remaining_of_taken (next : Cursor) (h : cursor.window.isFull cursor.emitted = false)
    (hs : cursor.toSkip = 0) (hs' : next.toSkip = 0) (hw : next.window = cursor.window)
    (he : next.emitted = cursor.emitted + 1) (lines : Nat) :
    cursor.remaining.count (lines + 1) = next.remaining.count lines + 1 := by
  unfold Window.isFull at h
  rw [Window.count, Window.count, remaining, remaining, hs, hs', hw, he]
  cases hl : cursor.window.limit with
  | none => rfl
  | some limit =>
    have hlt : cursor.emitted < limit := by simpa [hl] using h
    simp only [Option.map_some]
    omega

theorem count_remaining_of_skipped {next : Cursor} (hs : cursor.toSkip = next.toSkip + 1)
    (hw : next.window = cursor.window) (he : next.emitted = cursor.emitted) (lines : Nat) :
    cursor.remaining.count (lines + 1) = next.remaining.count lines := by
  rw [Window.count, Window.count, remaining, remaining, hs, hw, he]
  dsimp only
  rw [Nat.add_sub_add_right]

theorem length_records_of_ready (h : cursor.Ready) (hok : ∀ line ∈ cursor.rest, line.isOk = true) :
    cursor.records.length ≤ cursor.remaining.count cursor.rest.length ∧
      (cursor.records.length = cursor.remaining.count cursor.rest.length ↔
        cursor.failure? = none) := by
  induction h using Ready.induct with
  | full cursor h hf hn =>
    rw [records_of_next_none hn, failure?_of_next_none hn, count_remaining_of_full hf]
    simp
  | ended cursor h hf hr hn =>
    have hz : cursor.remaining.count cursor.rest.length = 0 := by
      rw [hr]
      unfold Window.count
      split <;> simp
    rw [records_of_next_none hn, failure?_of_next_none hn, hz]
    simp
  | unreadable cursor fault rest h hf hr hn =>
    rw [hr, List.forall_mem_cons] at hok
    cases hok.1
  | malformed cursor text error rest h hf hs hr hp hn =>
    have hlt : 0 < cursor.remaining.count cursor.rest.length := by
      let next : Cursor := { cursor with toSkip := 0, emitted := cursor.emitted + 1 }
      rw [hr, List.length_cons, count_remaining_of_taken next hf hs rfl rfl rfl]
      exact Nat.succ_pos _
    rw [records_of_next_error hn, failure?_of_next_error hn]
    exact ⟨Nat.zero_le _, by simpa using Nat.ne_of_lt hlt⟩
  | record cursor next text record h hf hs hr hp hw hl hm hn hnext ih =>
    rw [hr, List.forall_mem_cons] at hok
    have hs' : next.toSkip = 0 := by
      have hc := h.counts
      have hc' := hnext.counts
      rw [hw] at hc'
      omega
    rw [records_of_next_ok hn, failure?_of_next_ok hn, hr, List.length_cons, List.length_cons,
      count_remaining_of_taken next hf hs hs' hw hm, Nat.add_le_add_iff_right,
      Nat.add_right_cancel_iff]
    exact ih hok.2
  | skipped cursor next text h hf hs hr hw hl hm hn hnext ih =>
    rw [hr, List.forall_mem_cons] at hok
    rw [records_of_next_eq hn, failure?_of_next_eq hn, hr, List.length_cons,
      count_remaining_of_skipped hs hw hm]
    exact ih hok.2

theorem countLines_of_unreadable (h : cursor.Ready) {line : Nat} {fault : Fault}
    (hf : cursor.failure? = some (.unreadable line fault)) :
    Source.countLines cursor.rest cursor.line = .error (.unreadable line fault) := by
  induction h using Ready.induct with
  | full cursor h hw hn | ended cursor h hw hr hn =>
    rw [failure?_of_next_none hn] at hf
    cases hf
  | unreadable cursor fault' rest h hw hr hn =>
    rw [failure?_of_next_error hn] at hf
    cases hf
    rw [hr, Source.countLines]
  | malformed cursor text error rest h hw hs hr hp hn =>
    rw [failure?_of_next_error hn] at hf
    cases hf
    obtain ⟨defect, hd⟩ := Record.error_of_parse hp
    cases hd
  | record cursor next text record h hw hs hr hp hwindow hl hm hn hnext ih =>
    rw [failure?_of_next_ok hn] at hf
    rw [hr, Source.countLines, ← hl]
    exact ih hf
  | skipped cursor next text h hw hs hr hwindow hl hm hn hnext ih =>
    rw [failure?_of_next_eq hn] at hf
    rw [hr, Source.countLines, ← hl]
    exact ih hf

theorem countP_items (cursor : Cursor) :
    cursor.items.countP Except.isOk = cursor.records.length := by
  have hr : (cursor.records.map .ok : List (Except TraceError Record)).countP Except.isOk =
      cursor.records.length := by
    rw [List.countP_map]
    exact List.countP_eq_length.mpr fun _ _ ↦ rfl
  have hf : (cursor.failure?.map .error : Option (Except TraceError Record)).toList.countP
      Except.isOk = 0 := by
    cases cursor.failure? <;> rfl
  rw [items_eq_append, List.countP_append, hr, hf, Nat.add_zero]

theorem emitted_le_of_ready (h : cursor.Ready) (calls : Nat) :
    (cursor.after calls).emitted ≤ cursor.emitted + cursor.records.length := by
  rw [emitted_after_of_ready h, ← countP_items]
  exact Nat.add_le_add_left (List.take_sublist ..).countP_le _

theorem result_eq_none_iff {calls : Nat} :
    cursor.result calls = none ↔ cursor.items.length ≤ calls := by
  rw [result_eq_items, List.getElem?_eq_none_iff]

theorem emitted_of_exhausted (h : cursor.Ready) {calls : Nat} (hr : cursor.result calls = none) :
    (cursor.after calls).emitted = cursor.emitted + cursor.records.length := by
  rw [emitted_after_of_ready h, List.take_of_length_le (result_eq_none_iff.mp hr), countP_items]

theorem failure?_eq_some_iff {error : TraceError} :
    cursor.failure? = some error ↔ ∃ call, cursor.result call = some (.error error) := by
  simp only [result_eq_items, ← List.mem_iff_getElem?]
  rw [items_eq_append, List.mem_append]
  constructor
  · intro hf
    right
    rw [hf]
    exact List.mem_singleton.mpr rfl
  · intro hm
    obtain hr | hf := hm
    · obtain ⟨record, -, hr⟩ := List.mem_map.mp hr
      cases hr
    · rw [Option.mem_toList, Option.map_eq_some_iff] at hf
      obtain ⟨error', hf, he⟩ := hf
      cases he
      exact hf

theorem failure?_eq_none_iff :
    cursor.failure? = none ↔ ∀ call error, cursor.result call ≠ some (.error error) := by
  constructor
  · intro hf call error hr
    rw [failure?_eq_some_iff.mpr ⟨call, hr⟩] at hf
    cases hf
  · intro h
    cases hf : cursor.failure? with
    | none => rfl
    | some error =>
      obtain ⟨call, hr⟩ := failure?_eq_some_iff.mp hf
      exact absurd hr (h call error)

/-- A cursor that comes to an end, with so many records if it meets no error, and with fewer if it
does. -/
structure EmitsWithin (cursor : Cursor) (n : Nat) : Prop where
  exhausted : ∃ calls, cursor.result calls = none
  emitted_le : ∀ calls, (cursor.after calls).emitted ≤ n
  emitted_eq_iff : ∀ calls, cursor.result calls = none →
    ((cursor.after calls).emitted = n ↔
      ∀ call error, cursor.result call ≠ some (.error error))

end Cursor

namespace Source

variable {source : Source} {window : Window} {n : Nat}

theorem recordCount_eq_ok_iff :
    source.recordCount window = .ok n ↔
      (∀ line ∈ source.lines, line.isOk = true) ∧ n = window.count source.lines.length := by
  rw [recordCount]
  constructor
  · intro h
    rcases hc : countLines source.lines with error | counted
    · rw [hc] at h
      cases h
    · rw [hc] at h
      cases h
      obtain ⟨hok, rfl⟩ := countLines_eq_ok_iff.mp hc
      rw [Nat.zero_add]
      exact ⟨hok, rfl⟩
  · intro h
    rw [countLines_of_ok h.1, h.2, Nat.zero_add]
    rfl

theorem length_records_of_count (h : source.recordCount window = .ok n) :
    (Cursor.ofSource source window).records.length ≤ n ∧
      ((Cursor.ofSource source window).records.length = n ↔
        (Cursor.ofSource source window).failure? = none) := by
  obtain ⟨hok, rfl⟩ := recordCount_eq_ok_iff.mp h
  have hr := Cursor.length_records_of_ready (Cursor.ready_ofSource source window) hok
  rwa [Cursor.remaining_ofSource] at hr

theorem emitsWithin_of_count (h : source.recordCount window = .ok n) :
    (Cursor.ofSource source window).EmitsWithin n := by
  have hready := Cursor.ready_ofSource source window
  obtain ⟨hle, heq⟩ := length_records_of_count h
  have hz : (Cursor.ofSource source window).emitted = 0 := rfl
  refine ⟨⟨_, Cursor.result_eq_none_iff.mpr (Nat.le_refl _)⟩, fun calls ↦ ?_, fun calls hr ↦ ?_⟩
  · have hcalls := Cursor.emitted_le_of_ready hready calls
    omega
  · rw [Cursor.emitted_of_exhausted hready hr, hz, Nat.zero_add, heq, Cursor.failure?_eq_none_iff]

theorem recordCount_of_unreadable {call line : Nat} {fault : Fault}
    (h : (Cursor.ofSource source window).result call = some (.error (.unreadable line fault))) :
    source.recordCount window = .error (.unreadable line fault) := by
  have hc : countLines source.lines = .error (.unreadable line fault) :=
    Cursor.countLines_of_unreadable (Cursor.ready_ofSource source window)
      (Cursor.failure?_eq_some_iff.mpr ⟨call, h⟩)
  rw [recordCount, hc]
  rfl

end Source

namespace Storage

/-- One text at every path, which no decompressor takes for an archive. -/
def ofText (text : String) : Storage where
  read _ := .ok (Text.utf8 text)
  decompress _ := .ok ⟨[], some .unknownFrame⟩

variable {storage : Storage} {path : String} {window : Window} {cursor : Cursor}
  {error : TraceError}

theorem openTrace_eq_error_iff :
    storage.openTrace path = .error error ↔
      ∃ fault, error = .unavailable path fault ∧
        (storage.read path = .error fault ∨ ∃ archive, storage.read path = .ok archive ∧
          extension? path = some "zst" ∧ storage.decompress archive = .error fault) := by
  rw [openTrace]
  rcases storage.read path with fault | bytes
  · simp [bind, Except.bind, Except.mapError, eq_comm]
  by_cases hz : extension? path = some "zst"
  · rcases hd : storage.decompress bytes with fault | source
    · simp [bind, Except.bind, Except.mapError, hz, hd, eq_comm]
    · simp [bind, Except.bind, Except.mapError, hz, hd]
  · simp [bind, Except.bind, Except.mapError, pure, Except.pure, hz]

theorem openCursor_eq_ok_iff :
    storage.openCursor path window = .ok cursor ↔
      ∃ source, storage.openTrace path = .ok source ∧ cursor = .ofSource source window := by
  rw [openCursor]
  rcases storage.openTrace path with error | source
  · simp [Except.map]
  · simp [Except.map, eq_comm]

theorem openCursor_eq_error_iff :
    storage.openCursor path window = .error error ↔ storage.openTrace path = .error error := by
  rw [openCursor]
  rcases storage.openTrace path with error | source
  · simp [Except.map]
  · simp [Except.map]

theorem recordCount_eq_ok_iff {n : Nat} :
    storage.recordCount path window = .ok n ↔
      ∃ source, storage.openTrace path = .ok source ∧ source.recordCount window = .ok n := by
  rw [recordCount]
  rcases storage.openTrace path with error | source
  · simp [Except.bind]
  · simp [Except.bind]

end Storage

end Lockstep
