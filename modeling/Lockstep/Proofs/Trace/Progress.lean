import Lockstep.Proofs.Trace.Emission

namespace Lockstep

/-- Results up to the first error, with it. -/
def throughError {ε α : Type} : List (Except ε α) → List (Except ε α)
  | [] => []
  | .ok a :: rest => .ok a :: throughError rest
  | .error error :: _ => [.error error]

namespace Window

variable {α : Type}

/-- The lines of a window that begin behind so many lines, without those behind its limit. -/
def cut (window : Window) (line : Nat) (lines : List α) : List α :=
  match window.limit with
  | none => lines
  | some limit => lines.take (window.skip + limit - line)

/-- What a line with its number is for a reader: nothing if it is skipped, and an error even then
if it cannot be read. -/
def view (window : Window) : Line × Nat → Option (Except TraceError Record)
  | (.error fault, number) => some (.error (.unreadable number fault))
  | (.ok text, number) =>
    if number ≤ window.skip then none else some (Record.parse number text)

/-- All that is ever emitted of the lines of a trace. -/
def emission (window : Window) (lines : List Line) : List (Except TraceError Record) :=
  if window.limit = some 0 then []
  else throughError ((window.cut 0 (lines.zipIdx 1)).filterMap window.view)

def isBad (window : Window) (entry : Line × Nat) : Bool :=
  match window.view entry with
  | some (.error _) => true
  | _ => false

/-- The number of lines up to the first one that is an error, with it. -/
def extent (window : Window) (entries : List (Line × Nat)) : Nat :=
  min (entries.findIdx window.isBad + 1) entries.length

/-- The line that so many records end at. -/
def reach (window : Window) (records : Nat) : Nat :=
  window.skip + window.limit.elim records (min records)

/-- How many lines are gone after so many calls. -/
def taken (window : Window) (lines : List Line) (calls : Nat) : Nat :=
  if calls = 0 ∨ window.limit = some 0 then 0
  else min (window.reach calls) (window.extent (lines.zipIdx 1))

variable {window : Window} {entry : Line × Nat} {entries : List (Line × Nat)}

theorem cut_nil (line : Nat) : window.cut line ([] : List α) = [] := by
  unfold cut
  split <;> simp

theorem reach_le (window : Window) (records : Nat) :
    window.reach records ≤ window.skip + records := by
  unfold reach
  cases window.limit with
  | none => simp
  | some limit =>
    simp only [Option.elim_some]
    omega

theorem extent_le : window.extent entries ≤ entries.length :=
  Nat.min_le_right ..

theorem taken_le (window : Window) (lines : List Line) (calls : Nat) :
    window.taken lines calls ≤ lines.length := by
  unfold taken
  split
  · exact Nat.zero_le _
  · have h : window.extent (lines.zipIdx 1) ≤ (lines.zipIdx 1).length := extent_le
    rw [List.length_zipIdx] at h
    omega

theorem taken_le_limit {lines : List Line} {calls limit : Nat} (h : window.limit = some limit) :
    window.taken lines calls ≤ if limit = 0 then 0 else window.skip + limit := by
  have hr : window.reach calls ≤ window.skip + limit := by
    simp only [reach, h, Option.elim_some]
    omega
  unfold taken
  by_cases hl : limit = 0
  · simp [h, hl]
  · rw [if_neg hl]
    split
    · exact Nat.zero_le _
    · omega

theorem extent_cons_of_bad (h : window.isBad entry = true) :
    window.extent (entry :: entries) = 1 := by
  simp [extent, List.findIdx_cons, h]

theorem extent_cons_of_good (h : window.isBad entry = false) :
    window.extent (entry :: entries) = window.extent entries + 1 := by
  simp only [extent, List.findIdx_cons, h, cond_false, List.length_cons]
  omega

end Window

namespace Cursor

def after (cursor : Cursor) : (calls : Nat) → Cursor
  | 0 => cursor
  | calls + 1 => cursor.next.2.after calls

/-- What a call gives, counted from zero. -/
def result (cursor : Cursor) (call : Nat) : Option (Except TraceError Record) :=
  (cursor.after call).next.1

variable {cursor : Cursor}

theorem next_of_finished (h : cursor.finished = true) : cursor.next = (none, cursor) := by
  simp [next, h]

theorem after_of_finished (h : cursor.finished = true) (calls : Nat) :
    cursor.after calls = cursor := by
  induction calls with
  | zero => rfl
  | succ calls ih => rw [after, next_of_finished h, ih]

theorem finished_of_next (h : ∀ record, cursor.next.1 ≠ some (.ok record)) :
    cursor.next.2.finished = true := by
  revert h
  unfold next
  split
  · simp_all
  split
  · simp
  split
  · simp
  · simp
  · split <;> simp

theorem after_add (cursor : Cursor) (m n : Nat) :
    cursor.after (m + n) = (cursor.after m).after n := by
  induction m generalizing cursor with
  | zero => rw [Nat.zero_add]; rfl
  | succ m ih => rw [Nat.add_right_comm, after, ih]; rfl

theorem after_succ (cursor : Cursor) (n : Nat) :
    cursor.after (n + 1) = (cursor.after n).next.2 :=
  cursor.after_add n 1

theorem after_of_result {call : Nat} (h : ∀ record, cursor.result call ≠ some (.ok record))
    {calls : Nat} (hc : call < calls) : cursor.after calls = cursor.after (call + 1) := by
  obtain ⟨n, rfl⟩ : ∃ n, calls = call + 1 + n := ⟨calls - (call + 1), by omega⟩
  have hf : (cursor.after (call + 1)).finished = true := by
    rw [after_succ]
    exact finished_of_next h
  rw [after_add, after_of_finished hf]

theorem finished_after_of_result {call : Nat}
    (h : ∀ record, cursor.result call ≠ some (.ok record)) {calls : Nat} (hc : call < calls) :
    (cursor.after calls).finished = true := by
  rw [after_of_result h hc, after_succ]
  exact finished_of_next h

theorem items_of_finished (h : cursor.finished = true) : cursor.items = [] :=
  items_of_next_none (next_of_finished h)

theorem items_of_next_eq {other : Cursor} (h : cursor.next = other.next) :
    cursor.items = other.items := by
  rcases hn : other.next with ⟨_ | error | record, next⟩
  · rw [items_of_next_none hn, items_of_next_none (h.trans hn)]
  · rw [items_of_next_error hn, items_of_next_error (h.trans hn)]
  · rw [items_of_next_ok hn, items_of_next_ok (h.trans hn)]

theorem records_of_next_eq {other : Cursor} (h : cursor.next = other.next) :
    cursor.records = other.records := by
  rw [records, records, items_of_next_eq h]

theorem failure?_of_next_eq {other : Cursor} (h : cursor.next = other.next) :
    cursor.failure? = other.failure? := by
  rw [failure?, failure?, items_of_next_eq h]

theorem result_eq_items (cursor : Cursor) (call : Nat) :
    cursor.result call = cursor.items[call]? := by
  induction call generalizing cursor with
  | zero =>
    rcases h : cursor.next with ⟨_ | error | record, next⟩
    · rw [items_of_next_none h]
      exact congrArg Prod.fst h
    · rw [items_of_next_error h]
      exact congrArg Prod.fst h
    · rw [items_of_next_ok h]
      exact congrArg Prod.fst h
  | succ call ih =>
    have hr : cursor.result (call + 1) = cursor.next.2.result call := rfl
    rw [hr, ih]
    rcases h : cursor.next with ⟨_ | error | record, next⟩
    · have hf : cursor.next.2.finished = true := finished_of_next (by simp [h])
      rw [h] at hf
      rw [items_of_finished hf, items_of_next_none h]
      rfl
    · have hf : cursor.next.2.finished = true := finished_of_next (by simp [h])
      rw [h] at hf
      rw [items_of_finished hf, items_of_next_error h]
      rfl
    · rw [items_of_next_ok h, List.getElem?_cons_succ]

/-- A cursor that has not come to an end, and whose counts agree. -/
structure Ready (cursor : Cursor) : Prop where
  unfinished : cursor.finished = false
  counts : cursor.line + cursor.toSkip = cursor.window.skip + cursor.emitted
  skipping : cursor.toSkip = 0 ∨ cursor.emitted = 0
  fits : ∀ limit, cursor.window.limit = some limit → cursor.emitted ≤ limit

theorem ready_ofSource (source : Source) (window : Window) : (ofSource source window).Ready where
  unfinished := rfl
  counts := counts_ofSource source window
  skipping := .inr rfl
  fits := fun _ _ ↦ Nat.zero_le _

/-- Line by line, as a cursor goes over the rest of a trace: it is full, at the end, at a line that
cannot be read or is no record, at a record, or at a line to be skipped. -/
theorem Ready.induct {motive : (cursor : Cursor) → cursor.Ready → Prop}
    (full : ∀ (cursor : Cursor) (h : cursor.Ready), cursor.window.isFull cursor.emitted = true →
      cursor.next = (none, { cursor with finished := true }) → motive cursor h)
    (ended : ∀ (cursor : Cursor) (h : cursor.Ready),
      cursor.window.isFull cursor.emitted = false → cursor.rest = [] →
      cursor.next = (none, { cursor with finished := true }) → motive cursor h)
    (unreadable : ∀ (cursor : Cursor) (fault : Fault) (rest : List Line) (h : cursor.Ready),
      cursor.window.isFull cursor.emitted = false → cursor.rest = .error fault :: rest →
      cursor.next = (some (.error (.unreadable (cursor.line + 1) fault)),
        { cursor with rest, line := cursor.line + 1, finished := true }) → motive cursor h)
    (malformed : ∀ (cursor : Cursor) (text : String) (error : TraceError) (rest : List Line)
      (h : cursor.Ready), cursor.window.isFull cursor.emitted = false → cursor.toSkip = 0 →
      cursor.rest = .ok text :: rest → Record.parse (cursor.line + 1) text = .error error →
      cursor.next = (some (.error error),
        { cursor with rest, line := cursor.line + 1, finished := true }) → motive cursor h)
    (record : ∀ (cursor next : Cursor) (text : String) (record : Record) (h : cursor.Ready),
      cursor.window.isFull cursor.emitted = false → cursor.toSkip = 0 →
      cursor.rest = .ok text :: next.rest → Record.parse (cursor.line + 1) text = .ok record →
      next.window = cursor.window → next.line = cursor.line + 1 →
      next.emitted = cursor.emitted + 1 → cursor.next = (some (.ok record), next) →
      (hn : next.Ready) → motive next hn → motive cursor h)
    (skipped : ∀ (cursor next : Cursor) (text : String) (h : cursor.Ready),
      cursor.window.isFull cursor.emitted = false → cursor.toSkip = next.toSkip + 1 →
      cursor.rest = .ok text :: next.rest → next.window = cursor.window →
      next.line = cursor.line + 1 → next.emitted = cursor.emitted → cursor.next = next.next →
      (hn : next.Ready) → motive next hn → motive cursor h)
    (h : cursor.Ready) : motive cursor h := by
  rcases cursor with ⟨rest, window, toSkip, line, emitted, finished⟩
  obtain rfl : finished = false := h.unfinished
  -- A line that is skipped counts down, so all the counts change with the rest.
  induction rest generalizing toSkip line emitted with
  | nil =>
    cases hf : window.isFull emitted with
    | true => exact full _ h hf (by simp [next, hf])
    | false => exact ended _ h hf rfl (by simp [next, hf, Advance.ofLines])
  | cons head rest ih =>
    cases hf : window.isFull emitted with
    | true => exact full _ h hf (by simp [next, hf])
    | false =>
    have hfits : ∀ limit, window.limit = some limit → emitted + 1 ≤ limit := by
      intro limit hl
      have hlt : emitted < limit := by simpa [Window.isFull, hl] using hf
      exact hlt
    have hcounts : line + toSkip = window.skip + emitted := h.counts
    rcases head with fault | text
    · exact unreadable _ fault rest h hf rfl (by simp [next, hf, Advance.ofLines])
    rcases toSkip with _ | toSkip
    · rcases hp : Record.parse (line + 1) text with error | found
      · exact malformed _ text error rest h hf rfl rfl hp (by simp [next, hf, Advance.ofLines, hp])
      · have hnext : Ready ⟨rest, window, 0, line + 1, emitted + 1, false⟩ :=
          ⟨rfl, by dsimp only; omega, .inl rfl, hfits⟩
        exact record _ ⟨rest, window, 0, line + 1, emitted + 1, false⟩ text found h hf rfl rfl hp rfl rfl
          rfl (by simp [next, hf, Advance.ofLines, hp]) hnext (ih _ _ _ hnext)
    · have hnext : Ready ⟨rest, window, toSkip, line + 1, emitted, false⟩ := by
        refine ⟨rfl, by dsimp only; omega, .inr ?_, h.fits⟩
        simpa using h.skipping
      exact skipped _ ⟨rest, window, toSkip, line + 1, emitted, false⟩ text h hf rfl rfl rfl rfl rfl
        (by simp [next, hf, Advance.ofLines]) hnext (ih _ _ _ hnext)

theorem Ready.view_of_taken (h : cursor.Ready) (hs : cursor.toSkip = 0) (text : String) :
    cursor.window.view (.ok text, cursor.line + 1) =
      some (Record.parse (cursor.line + 1) text) := by
  have hc := h.counts
  exact if_neg (by omega)

theorem Ready.view_of_skipped (h : cursor.Ready) {toSkip : Nat} (hs : cursor.toSkip = toSkip + 1)
    (text : String) : cursor.window.view (.ok text, cursor.line + 1) = none := by
  have hc := h.counts
  have := h.skipping
  exact if_pos (by omega)

theorem Ready.cut_cons {α : Type} (h : cursor.Ready)
    (hf : cursor.window.isFull cursor.emitted = false) (head : α) (rest : List α) :
    cursor.window.cut cursor.line (head :: rest) =
      head :: cursor.window.cut (cursor.line + 1) rest := by
  have hc := h.counts
  unfold Window.cut
  unfold Window.isFull at hf
  cases hl : cursor.window.limit with
  | none => rfl
  | some limit =>
    have hlt : cursor.emitted < limit := by simpa [hl] using hf
    obtain ⟨k, hk⟩ : ∃ k, cursor.window.skip + limit - cursor.line = k + 1 :=
      ⟨cursor.window.skip + limit - cursor.line - 1, by omega⟩
    have hk' : cursor.window.skip + limit - (cursor.line + 1) = k := by omega
    simp only [hk, hk', List.take_succ_cons]

theorem Ready.cut_of_full {α : Type} (h : cursor.Ready) (hz : cursor.window.limit ≠ some 0)
    (hf : cursor.window.isFull cursor.emitted = true) (rest : List α) :
    cursor.window.cut cursor.line rest = [] := by
  have hc := h.counts
  unfold Window.isFull at hf
  cases hl : cursor.window.limit with
  | none => simp [hl] at hf
  | some limit =>
    have hle : limit ≤ cursor.emitted := by simpa [hl] using hf
    have hs : cursor.toSkip = 0 ∨ cursor.emitted = 0 := h.skipping
    have hne : limit ≠ 0 := by
      intro he
      exact hz (he ▸ hl)
    have hk : cursor.window.skip + limit - cursor.line = 0 := by omega
    simp [Window.cut, hl, hk]

theorem Ready.reach_of_full (h : cursor.Ready) (hz : cursor.window.limit ≠ some 0)
    (hf : cursor.window.isFull cursor.emitted = true) (n : Nat) :
    cursor.window.reach (cursor.emitted + n) = cursor.line := by
  have hc := h.counts
  unfold Window.isFull at hf
  cases hl : cursor.window.limit with
  | none => simp [hl] at hf
  | some limit =>
    have hle : limit ≤ cursor.emitted := by simpa [hl] using hf
    have hfits := h.fits limit hl
    have hs := h.skipping
    have hne : limit ≠ 0 := by
      intro he
      exact hz (he ▸ hl)
    simp only [Window.reach, hl, Option.elim_some]
    omega

theorem Ready.lt_reach (h : cursor.Ready) (hf : cursor.window.isFull cursor.emitted = false)
    (n : Nat) : cursor.line + cursor.toSkip < cursor.window.reach (cursor.emitted + n + 1) := by
  have hc := h.counts
  unfold Window.isFull at hf
  cases hl : cursor.window.limit with
  | none =>
    simp only [Window.reach, hl, Option.elim_none]
    omega
  | some limit =>
    have hlt : cursor.emitted < limit := by simpa [hl] using hf
    simp only [Window.reach, hl, Option.elim_some]
    omega

end Cursor

end Lockstep
