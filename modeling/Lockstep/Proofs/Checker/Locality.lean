import Lockstep.Proofs.Checker.Answers
import Lockstep.Proofs.Trace.Sharing

namespace Lockstep

variable {σ : Type}

/-- A result, after so many comparisons, to which none but the first records of a window led. -/
def CausedWithin (count compared : Nat) : Except CheckError Outcome → Prop
  | .error _ => compared < count
  | .ok (.failed found) => found.step ≤ count
  | .ok (.passed _) => False

/-- A run that ends by its limit or by what it met, and takes no more than so many records. -/
def StopsWithin (window : Window) (count : Nat) (run : Except CheckError Outcome × Checker σ) :
    Prop :=
  (∃ limit ∈ window.limit, limit ≤ count) ∨ CausedWithin count run.2.progress.compared run.1

variable [Debugger σ] {cursor other : Cursor} {settings : Settings} {endpoint : String}
  {count : Nat}

theorem Ends.of_take_items {start : σ} {result : Except CheckError Outcome} {final : Checker σ}
    (h : Ends cursor settings endpoint start result final)
    (ht : cursor.items.take count = other.items.take count) (hl : count ≤ cursor.records.length)
    (hc : CausedWithin count final.progress.compared result) :
    Ends other settings endpoint start result final := by
  cases h with
  | badHead hnil hf =>
    have hzero : 0 < count := hc
    simp [hnil] at hl
    omega
  | notEngaged hh he =>
    obtain ⟨record, later, hr⟩ := List.exists_cons_of_length_pos (Nat.lt_of_lt_of_le hc hl)
    have hr : cursor.records = [] ++ record :: later := hr
    obtain ⟨later', hr'⟩ := Cursor.records_of_take_items ht hr hc
    exact .notEngaged (by simp [hr']) he
  | notReached hr hm he =>
    obtain ⟨later', hr'⟩ := Cursor.records_of_take_items ht hr hc
    exact .notReached hr' hm he
  | notDumped hr hm hs he =>
    obtain ⟨later', hr'⟩ := Cursor.records_of_take_items ht hr hc
    exact .notDumped hr' hm hs he
  | badDump hr hm hs he =>
    obtain ⟨later', hr'⟩ := Cursor.records_of_take_items ht hr hc
    exact .badDump hr' hm hs he
  | mismatch hr hm hs hlive hn hf =>
    subst hf
    obtain ⟨later', hr'⟩ := Cursor.records_of_take_items ht hr hc
    exact .mismatch hr' hm hs hlive hn rfl
  | badTrace hr hf hm => exact absurd hc (Nat.not_lt_of_le hl)
  | notReleased hf hm he => exact absurd hc (Nat.not_lt_of_le hl)
  | passed hf hm hd => exact hc.elim

namespace Checker

theorem checkTrace_congr (h : cursor.items = other.items) :
    (checkTrace cursor endpoint settings : Attempt CheckError (Checker σ) Outcome) =
      checkTrace other endpoint settings := by
  rw [checkTrace, checkTrace, h]

theorem checkTrace_of_take_items {checker : Checker σ}
    (ht : cursor.items.take count = other.items.take count)
    (hc : let run := checkTrace cursor endpoint settings checker
      CausedWithin count run.2.progress.compared run.1) :
    checkTrace cursor endpoint settings checker = checkTrace other endpoint settings checker := by
  by_cases hl : count ≤ cursor.records.length
  · rcases hrun : checkTrace cursor endpoint settings checker with ⟨result, after⟩
    rw [hrun] at hc
    obtain ⟨final, hends, rfl⟩ := ends_of_checkTrace hrun
    exact (checkTrace_of_ends (hends.of_take_items ht hl hc)).symm
  · have hi := Cursor.items_eq_of_take_items ht (Nat.lt_of_not_le hl)
      cursor.result_length_records
    rw [checkTrace_congr hi]

theorem checkTrace_of_shares {checker : Checker σ} (hready : cursor.Ready)
    (hready' : other.Ready) (h : Cursor.Shares count cursor other)
    (hs : StopsWithin cursor.window count (checkTrace cursor endpoint settings checker)) :
    checkTrace cursor endpoint settings checker = checkTrace other endpoint settings checker := by
  obtain ⟨limit, hlimit, hc⟩ | hc := hs
  · have hle := Cursor.length_items_le_of_ready hready hlimit
    have hle' := Cursor.length_items_le_of_ready hready' (h.window_eq ▸ hlimit)
    have ht := h.take_items
    rw [List.take_of_length_le (by omega), List.take_of_length_le (by omega)] at ht
    rw [checkTrace_congr ht]
  · exact checkTrace_of_take_items h.take_items hc

end Checker

/-- Only the window matters: two sources that share its first lines give the same for each of them,
and a run that they bring to an end takes the same course over both, whatever the skipped lines are
and whatever comes behind. -/
theorem window_determines_run (source source' : Source) (window : Window)
    (h : ShareLines window.skip count source.lines source'.lines) :
    let cursor := Cursor.ofSource source window
    let cursor' := Cursor.ofSource source' window
    (∀ n < count, cursor.result n = cursor'.result n ∧
      (cursor.after (n + 1)).line = (cursor'.after (n + 1)).line ∧
      (cursor.after (n + 1)).emitted = (cursor'.after (n + 1)).emitted) ∧
    ∀ {σ τ : Type} [Debugger σ] [Debugger τ] (settings : Settings) (endpoint : String)
      (checker : Checker (Logged σ)) (checker' : Checker (Logged τ)),
      let run := Checker.checkTrace cursor endpoint settings checker
      let run' := Checker.checkTrace cursor' endpoint settings checker'
      Debugger.SameAnswers checker.session.session checker'.session.session →
      StopsWithin window count run →
      RunsAlike checker checker' run run' ∧ run.2.progress = run'.2.progress := by
  intro cursor cursor'
  have hshares : Cursor.Shares count cursor cursor' := Cursor.shares_ofSource h
  refine ⟨fun n hn ↦ ?_, ?_⟩
  · have hafter := hshares.after (Nat.succ_le_of_lt hn)
    exact ⟨hshares.result_eq hn, hafter.line_eq, hafter.emitted_eq⟩
  · intro σ τ _ _ settings endpoint checker checker' run run' hanswers hs
    have hrun : run = Checker.checkTrace cursor' endpoint settings checker :=
      Checker.checkTrace_of_shares (Cursor.ready_ofSource source window)
        (Cursor.ready_ofSource source' window) hshares hs
    rw [hrun]
    exact Checker.checkTrace_of_sameAnswers hanswers cursor' endpoint settings

theorem window_determines_run_of_header :
    let source : Source := ⟨Text.utf8 "boot\npc:1\npc:2\n", none⟩
    let source' : Source := ⟨Text.utf8 "\npc:1\n", some .corruptFrame⟩
    let window : Window := { skip := 1 }
    let script : Script := { dump := [.ok "pc 3"] }
    let checker : Checker (Logged ScriptedSession) := { session := ⟨⟨script, []⟩, []⟩ }
    let checker' : Checker (Logged ScriptedSession) := { session := ⟨⟨script, [.resume]⟩, []⟩ }
    let run := Checker.checkTrace (.ofSource source window) defaultEndpoint {} checker
    let run' := Checker.checkTrace (.ofSource source' window) defaultEndpoint {} checker'
    ShareLines window.skip 1 source.lines source'.lines ∧
      Debugger.SameAnswers checker.session.session checker'.session.session ∧
      StopsWithin window 1 run ∧
      RunsAlike checker checker' run run' ∧ run.2.progress = run'.2.progress := by
  intro source source' window script checker checker' run run'
  have hlines : source.lines = [.ok "boot", .ok "pc:1", .ok "pc:2"] := rfl
  have hlines' : source'.lines = [.ok "", .ok "pc:1", .error .corruptFrame] := rfl
  have h : ShareLines window.skip 1 source.lines source'.lines := by
    rw [hlines, hlines']
    exact ⟨by decide, by decide, by decide, by decide, rfl⟩
  have hanswers : Debugger.SameAnswers checker.session.session checker'.session.session :=
    ScriptedSession.alike_script.sameAnswers rfl
  have hs : StopsWithin window 1 run := by
    refine .inr ?_
    have hrun : run.1 = .ok (.failed
        ⟨1, 2, { Registers.zero with pc := 3 }, { Registers.zero with pc := 1 }⟩) := by
      simp only [run, Checker.checkTrace, Cursor.items_ofSource]
      rw [hlines]
      rfl
    rw [hrun]
    exact Nat.le_refl 1
  obtain ⟨-, hruns⟩ := window_determines_run source source' window h
  exact ⟨h, hanswers, hs, hruns {} defaultEndpoint checker checker' hanswers hs⟩

end Lockstep
