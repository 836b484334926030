import Lockstep.Proofs.Trace.Lines
import Lockstep.Proofs.Trace.Progress

namespace Lockstep.Cursor

variable {cursor : Cursor}

theorem items_of_ready (h : cursor.Ready) (hz : cursor.window.limit ≠ some 0) :
    cursor.items = throughError ((cursor.window.cut cursor.line
      (cursor.rest.zipIdx (cursor.line + 1))).filterMap cursor.window.view) := by
  induction h using Ready.induct with
  | full cursor h hf hn =>
    rw [items_of_next_none hn, h.cut_of_full hz hf]
    rfl
  | ended cursor h hf hr hn =>
    rw [items_of_next_none hn, hr, List.zipIdx_nil, Window.cut_nil]
    rfl
  | unreadable cursor fault rest h hf hr hn =>
    rw [items_of_next_error hn, hr, List.zipIdx_cons, h.cut_cons hf]
    rfl
  | malformed cursor text error rest h hf hs hr hp hn =>
    have hv := h.view_of_taken hs text
    rw [items_of_next_error hn, hr, List.zipIdx_cons, h.cut_cons hf]
    simp [hv, hp, throughError]
  | record cursor next text record h hf hs hr hp hw hl hm hn _ ih =>
    have hv := h.view_of_taken hs text
    rw [items_of_next_ok hn, ih (hw ▸ hz), hr, List.zipIdx_cons, h.cut_cons hf, hw, hl]
    simp [hv, hp, throughError]
  | skipped cursor next text h hf hs hr hw hl hm hn _ ih =>
    have hv := h.view_of_skipped hs text
    rw [items_of_next_eq hn, ih (hw ▸ hz), hr, List.zipIdx_cons, h.cut_cons hf, hw, hl]
    simp [hv]

theorem line_after_of_ready (h : cursor.Ready) (hz : cursor.window.limit ≠ some 0) (n : Nat) :
    (cursor.after (n + 1)).line = min (cursor.window.reach (cursor.emitted + n + 1))
      (cursor.line + cursor.window.extent (cursor.rest.zipIdx (cursor.line + 1))) := by
  induction h using Ready.induct generalizing n with
  | full cursor h hf hn =>
    rw [after, hn, after_of_finished rfl, Nat.add_assoc, h.reach_of_full hz hf]
    simp
  | ended cursor h hf hr hn =>
    have hlt := h.lt_reach hf n
    rw [after, hn, after_of_finished rfl, hr]
    simp only [Window.extent, List.zipIdx_nil, List.length_nil]
    omega
  | unreadable cursor fault rest h hf hr hn =>
    have hlt := h.lt_reach hf n
    have hb : cursor.window.isBad (.error fault, cursor.line + 1) = true := rfl
    rw [after, hn, after_of_finished rfl, hr, List.zipIdx_cons, Window.extent_cons_of_bad hb]
    dsimp only
    omega
  | malformed cursor text error rest h hf hs hr hp hn =>
    have hlt := h.lt_reach hf n
    have hv := h.view_of_taken hs text
    have hb : cursor.window.isBad (.ok text, cursor.line + 1) = true := by
      simp [Window.isBad, hv, hp]
    rw [after, hn, after_of_finished rfl, hr, List.zipIdx_cons, Window.extent_cons_of_bad hb]
    dsimp only
    omega
  | record cursor next text record h hf hs hr hp hw hl hm hn _ ih =>
    have hlt := h.lt_reach hf n
    have hv := h.view_of_taken hs text
    have hb : cursor.window.isBad (.ok text, cursor.line + 1) = false := by
      simp [Window.isBad, hv, hp]
    rw [after, hn, hr, List.zipIdx_cons, Window.extent_cons_of_good hb]
    cases n with
    | zero =>
      have hc := h.counts
      have hle := cursor.window.reach_le (cursor.emitted + 1)
      simp only [after, hl, Nat.add_zero] at hlt ⊢
      omega
    | succ n =>
      have hcount : cursor.emitted + 1 + n + 1 = cursor.emitted + (n + 1) + 1 := by omega
      rw [ih (hw ▸ hz), hw, hl, hm, hcount]
      omega
  | skipped cursor next text h hf hs hr hw hl hm hn _ ih =>
    have hv := h.view_of_skipped hs text
    have hb : cursor.window.isBad (.ok text, cursor.line + 1) = false := by
      simp [Window.isBad, hv]
    have ha : cursor.after (n + 1) = next.after (n + 1) := by rw [after, after, hn]
    rw [ha, ih (hw ▸ hz), hw, hl, hm, hr, List.zipIdx_cons, Window.extent_cons_of_good hb]
    omega

theorem rest_after_of_ready (h : cursor.Ready) (n : Nat) :
    ∃ taken, (cursor.after n).line = cursor.line + taken ∧
      (cursor.after n).rest = cursor.rest.drop taken := by
  rcases n with _ | n
  · exact ⟨0, rfl, rfl⟩
  induction h using Ready.induct generalizing n with
  | full cursor h hf hn =>
    rw [after, hn, after_of_finished rfl]
    exact ⟨0, rfl, rfl⟩
  | ended cursor h hf hr hn =>
    rw [after, hn, after_of_finished rfl]
    exact ⟨0, rfl, rfl⟩
  | unreadable cursor fault rest h hf hr hn =>
    rw [after, hn, after_of_finished rfl, hr]
    exact ⟨1, rfl, rfl⟩
  | malformed cursor text error rest h hf hs hr hp hn =>
    rw [after, hn, after_of_finished rfl, hr]
    exact ⟨1, rfl, rfl⟩
  | record cursor next text record h hf hs hr hp hw hl hm hn _ ih =>
    rw [after, hn, hr]
    rcases n with _ | n
    · exact ⟨1, hl, rfl⟩
    · obtain ⟨taken, hline, hrest⟩ := ih n
      exact ⟨taken + 1, by dsimp only; omega, hrest⟩
  | skipped cursor next text h hf hs hr hw hl hm hn _ ih =>
    have ha : cursor.after (n + 1) = next.after (n + 1) := by rw [after, after, hn]
    obtain ⟨taken, hline, hrest⟩ := ih n
    rw [ha, hr]
    exact ⟨taken + 1, by omega, hrest⟩

theorem emitted_after_of_ready (h : cursor.Ready) (n : Nat) :
    (cursor.after n).emitted = cursor.emitted + (cursor.items.take n).countP Except.isOk := by
  rcases n with _ | n
  · simp [after]
  induction h using Ready.induct generalizing n with
  | full cursor h hf hn =>
    rw [after, hn, after_of_finished rfl, items_of_next_none hn]
    rfl
  | ended cursor h hf hr hn =>
    rw [after, hn, after_of_finished rfl, items_of_next_none hn]
    rfl
  | unreadable cursor fault rest h hf hr hn =>
    rw [after, hn, after_of_finished rfl, items_of_next_error hn, List.take_of_length_le (by simp)]
    rfl
  | malformed cursor text error rest h hf hs hr hp hn =>
    rw [after, hn, after_of_finished rfl, items_of_next_error hn, List.take_of_length_le (by simp)]
    rfl
  | record cursor next text record h hf hs hr hp hw hl hm hn _ ih =>
    rw [after, hn, items_of_next_ok hn, List.take_succ_cons, List.countP_cons_of_pos rfl]
    rcases n with _ | n
    · simp [after, hm]
    · have hi := ih n
      dsimp only
      omega
  | skipped cursor next text h hf hs hr hw hl hm hn _ ih =>
    have ha : cursor.after (n + 1) = next.after (n + 1) := by rw [after, after, hn]
    rw [ha, ih, hm, items_of_next_eq hn]

/-- A line that cannot be read is never passed over: reading ends at it, at an error before it, or
at the limit. -/
theorem not_clean_of_ready (h : cursor.Ready) {fault : Fault} (hm : .error fault ∈ cursor.rest)
    {n : Nat} (hr : cursor.result n = none) :
    cursor.window.isFull (cursor.after n).emitted = true ∨
      ∃ m < n, ∃ error, cursor.result m = some (.error error) := by
  induction h using Ready.induct generalizing n with
  | full cursor h hf hn =>
    left
    rcases n with _ | n
    · exact hf
    · rw [after, hn, after_of_finished rfl]
      exact hf
  | ended cursor h hf he hn =>
    rw [he] at hm
    simp at hm
  | unreadable cursor fault rest h hf he hn =>
    have h₀ : cursor.result 0 = some (.error _) := congrArg Prod.fst hn
    rcases n with _ | n
    · rw [hr] at h₀
      cases h₀
    · exact .inr ⟨0, by omega, _, h₀⟩
  | malformed cursor text error rest h hf hs he hp hn =>
    have h₀ : cursor.result 0 = some (.error _) := congrArg Prod.fst hn
    rcases n with _ | n
    · rw [hr] at h₀
      cases h₀
    · exact .inr ⟨0, by omega, _, h₀⟩
  | record cursor next text record h hf hs he hp hw hl hc hn _ ih =>
    have h₀ : cursor.result 0 = some (.ok record) := congrArg Prod.fst hn
    rcases n with _ | n
    · rw [hr] at h₀
      cases h₀
    have ha : ∀ m, cursor.after (m + 1) = next.after m := by
      intro m
      rw [after, hn]
    have hm' : .error fault ∈ next.rest := by simpa [he] using hm
    have hr' : next.result n = none := by
      rw [← hr, result, result, ha]
    obtain hfull | ⟨m, hlt, error, he⟩ := ih hm' hr'
    · left
      rw [ha, ← hw]
      exact hfull
    · refine .inr ⟨m + 1, by omega, error, ?_⟩
      rw [← he, result, result, ha]
  | skipped cursor next text h hf hs he hw hl hc hn _ ih =>
    have hresult : ∀ m, cursor.result m = next.result m := by
      intro m
      rw [result_eq_items, result_eq_items, items_of_next_eq hn]
    have hemitted : (cursor.after n).emitted = (next.after n).emitted := by
      rcases n with _ | n
      · exact hc.symm
      · rw [after, after, hn]
    have hm' : .error fault ∈ next.rest := by simpa [he] using hm
    simp only [hresult, hemitted, ← hw] at hr ⊢
    exact ih hm' hr

variable (source : Source) {window : Window}

theorem next_of_empty (hz : window.limit = some 0) :
    (ofSource source window).next = (none, { ofSource source window with finished := true }) := by
  simp [next, ofSource, Window.isFull, hz]

theorem items_ofSource : (ofSource source window).items = window.emission source.lines := by
  by_cases hz : window.limit = some 0
  · rw [items_of_next_none (next_of_empty source hz), Window.emission, if_pos hz]
  · rw [items_of_ready (ready_ofSource source window) hz, Window.emission, if_neg hz]
    rfl

theorem line_after_ofSource (n : Nat) :
    ((ofSource source window).after n).line = window.taken source.lines n := by
  unfold Window.taken
  rcases n with _ | n
  · rfl
  by_cases hz : window.limit = some 0
  · rw [after, next_of_empty source hz, after_of_finished rfl, if_pos (.inr hz)]
    rfl
  · rw [line_after_of_ready (ready_ofSource source window) hz, if_neg (by simp [hz])]
    simp [ofSource]

theorem rest_after_ofSource (n : Nat) : ((ofSource source window).after n).rest =
    source.lines.drop ((ofSource source window).after n).line := by
  obtain ⟨taken, hl, hr⟩ := rest_after_of_ready (ready_ofSource source window) n
  have hz : taken = ((ofSource source window).after n).line := by
    rw [hl]
    exact (Nat.zero_add taken).symm
  rw [hr, hz]
  rfl

/-- What calls of a cursor over any source give is the emission of its window: the records and the
error that the lines of the window make, and nothing behind them. The line count is the number of
lines taken, which ends with the results and at the limit, and a failure of the source is not
mistaken for its end. -/
theorem calls_ofSource (window : Window) :
    let cursor := ofSource source window
    (∀ lines, Source.HasLines source.failure source.bytes lines ↔ lines = source.lines) ∧
    ∀ n,
      cursor.result n = (window.emission source.lines)[n]? ∧
      (cursor.after n).emitted = ((window.emission source.lines).take n).countP Except.isOk ∧
      (cursor.after n).line = window.taken source.lines n ∧
      (cursor.after n).rest = source.lines.drop (cursor.after n).line ∧
      (cursor.after n).line + (cursor.after n).rest.length = source.lines.length ∧
      (∀ limit, window.limit = some limit →
        (cursor.after n).line ≤ if limit = 0 then 0 else window.skip + limit) ∧
      ((∀ record, cursor.result n ≠ some (.ok record)) → ∀ m > n, cursor.result m = none ∧
        (cursor.after m).line = (cursor.after (n + 1)).line) ∧
      (source.failure ≠ none → cursor.result n = none →
        window.isFull (cursor.after n).emitted = true ∨
          ∃ m < n, ∃ error, cursor.result m = some (.error error)) := by
  intro cursor
  refine ⟨fun lines ↦ Source.hasLines_iff, fun n ↦ ?_⟩
  have hready : cursor.Ready := ready_ofSource source window
  have hitems : cursor.items = window.emission source.lines := items_ofSource source
  have hline : (cursor.after n).line = window.taken source.lines n := line_after_ofSource source n
  have hrest : (cursor.after n).rest = source.lines.drop (cursor.after n).line :=
    rest_after_ofSource source n
  refine ⟨?_, ?_, hline, hrest, ?_, ?_, ?_, ?_⟩
  · rw [result_eq_items, hitems]
  · rw [emitted_after_of_ready hready, hitems]
    exact Nat.zero_add _
  · have hle := window.taken_le source.lines n
    rw [hrest, List.length_drop]
    omega
  · intro limit hl
    rw [hline]
    exact Window.taken_le_limit hl
  · intro hn m hm
    refine ⟨?_, ?_⟩
    · rw [result, next_of_finished (finished_after_of_result hn hm)]
    · rw [after_of_result hn hm]
  · intro hf hn
    obtain ⟨fault, hfault⟩ := Option.ne_none_iff_exists'.mp hf
    have hm : .error fault ∈ cursor.rest := by
      have hs : source.lines = (Source.mk source.bytes (some fault)).lines := by rw [← hfault]
      change .error fault ∈ source.lines
      rw [hs]
      exact Source.error_mem_lines source.bytes
    exact not_clean_of_ready hready hm hn

end Lockstep.Cursor
