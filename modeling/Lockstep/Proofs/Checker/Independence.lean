import Lockstep.Proofs.Checker.Answers
import Lockstep.Proofs.Checker.Tasks
import Lockstep.Proofs.Trace.Counting

namespace Lockstep

variable {σ τ : Type} [Debugger σ] [Debugger τ] {cursor : Cursor} {settings : Settings}
  {endpoint : String} {storage : Storage} {path : String} {window : Window}

namespace Checker

theorem progress_of_bad_head {error : TraceError} (h : cursor.next.1 = some (.error error))
    (checker : Checker σ) :
    (checkTrace cursor endpoint settings checker).2.progress = { phase := .failed } := by
  obtain ⟨hr, hf⟩ := (cursor.next_eq_error_iff error).mp h
  rw [checkTrace_of_ends (.badHead hr hf)]

theorem checkFile_of_sameAnswers {before : Checker (Logged σ)} {before' : Checker (Logged τ)}
    (h : Debugger.SameAnswers before.session.session before'.session.session) :
    RunsAlike before before' (checkFile storage path window endpoint settings before)
      (checkFile storage path window endpoint settings before') := by
  cases ho : storage.openCursor path window with
  | error error =>
    rw [checkFile_of_unopened before ho, checkFile_of_unopened before' ho]
    exact ⟨rfl, ⟨[], by simp, by simp⟩, ⟨[], by simp, by simp⟩, h⟩
  | ok cursor =>
    rw [checkFile_of_opened before ho, checkFile_of_opened before' ho]
    exact (checkTrace_of_sameAnswers h cursor endpoint settings).1

end Checker

/-- A check does not depend on what was done with its checker before, as far as its result, its calls
and its notices go. Its progress does not either, but for a trace that cannot be opened: then the
progress of earlier tasks is kept, and only the phase is set. -/
theorem check_after_tasks (tasks tasks' : List Task) (start : Checker (Logged σ))
    (start' : Checker (Logged τ)) (storage : Storage) (path : String) (window : Window)
    (endpoint : String) (settings : Settings) :
    let before := (Task.performAll tasks start).2
    let before' := (Task.performAll tasks' start').2
    let run := Checker.checkFile storage path window endpoint settings before
    let run' := Checker.checkFile storage path window endpoint settings before'
    Debugger.SameAnswers before.session.session before'.session.session →
    RunsAlike before before' run run' ∧
      (∀ cursor, storage.openCursor path window = .ok cursor →
        run.2.progress = run'.2.progress ∧
        ∀ error, cursor.next.1 = some (.error error) → run.2.progress = { phase := .failed }) ∧
      ∀ error, storage.openCursor path window = .error error →
        run.2.progress = { before.progress with phase := .failed } ∧
        run'.2.progress = { before'.progress with phase := .failed } := by
  intro before before' run run' h
  refine ⟨Checker.checkFile_of_sameAnswers h, fun cursor ho ↦ ?_, fun error ho ↦ ?_⟩
  · have hrun : run = _ := Checker.checkFile_of_opened before ho
    have hrun' : run' = _ := Checker.checkFile_of_opened before' ho
    rw [hrun, hrun']
    exact ⟨(Checker.checkTrace_of_sameAnswers h cursor endpoint settings).2,
      fun error hn ↦ Checker.progress_of_bad_head hn before⟩
  · have hrun : run = _ := Checker.checkFile_of_unopened before ho
    have hrun' : run' = _ := Checker.checkFile_of_unopened before' ho
    rw [hrun, hrun']
    exact ⟨rfl, rfl⟩

theorem check_after_one_step :
    let record : Record := ⟨1, Update.empty.write .pc 1, 1, rfl⟩
    let used : Checker (Logged ScriptedSession) :=
      { session := ⟨{ script := { dump := [.ok "pc 1", .ok "pc 2"] } }, []⟩ }
    let fresh : Checker (Logged ScriptedSession) :=
      { session := ⟨{ script := { dump := [.ok "pc 2"] } }, []⟩ }
    let before := (Task.performAll [.step record] used).2
    let storage : Storage := .ofText "pc:2\n"
    let run := Checker.checkFile storage "boot.txt" {} defaultEndpoint {} before
    let run' := Checker.checkFile storage "boot.txt" {} defaultEndpoint {} fresh
    before.progress ≠ fresh.progress ∧
      Debugger.SameAnswers before.session.session fresh.session.session ∧
      RunsAlike before fresh run run' ∧ run.2.progress = run'.2.progress := by
  intro record used fresh before storage run run'
  have h : Debugger.SameAnswers before.session.session fresh.session.session :=
    ScriptedSession.alike_script.sameAnswers rfl
  obtain ⟨hruns, hprogress, -⟩ :=
    check_after_tasks [.step record] [] used fresh storage "boot.txt" {} defaultEndpoint {} h
  exact ⟨by decide, h, hruns, (hprogress _ rfl).1⟩

/-- A missing trace leaves what was compared before, where a checker without a past has nothing. -/
theorem progress_kept_by_missing_trace :
    let record : Record := ⟨1, Update.empty.write .pc 1, 1, rfl⟩
    let started : Checker ScriptedSession := { session := { script := { dump := [.ok "pc 1"] } } }
    let used := (Task.performAll [.step record] started).2
    let fresh : Checker ScriptedSession := { session := {} }
    let storage : Storage := { Storage.ofText "" with read := fun _ ↦ .error .notFound }
    let run := Checker.checkFile storage "missing" {} defaultEndpoint {} used
    let run' := Checker.checkFile storage "missing" {} defaultEndpoint {} fresh
    Debugger.SameAnswers used.session fresh.session ∧
      run.2.progress =
        ⟨{ Registers.zero with pc := 1 }, { Registers.zero with pc := 1 }, 1, .failed⟩ ∧
      run'.2.progress = { phase := .failed } := by
  intro record started used fresh storage run run'
  exact ⟨ScriptedSession.alike_script.sameAnswers rfl, by decide, rfl⟩

end Lockstep
