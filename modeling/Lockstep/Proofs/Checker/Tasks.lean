import Lockstep.Proofs.Checker.Ending
import Lockstep.Session.Script

namespace Lockstep

inductive Task where
  | run (cursor : Cursor) (endpoint : String) (settings : Settings)
  | check (storage : Storage) (path : String) (window : Window) (endpoint : String)
      (settings : Settings)
  | step (record : Record)

inductive Reply where
  | checked (result : Except CheckError Outcome)
  | stepped (result : Except CheckError (Option Mismatch))
  deriving DecidableEq

namespace Reply

def mismatch? : Reply → Option Mismatch
  | checked (.ok (.failed found)) => some found
  | stepped (.ok found) => found
  | _ => none

def phase : Reply → Phase → Phase
  | checked (.ok (.passed _)), _ => .passed
  | checked _, _ => .failed
  | stepped (.ok (some _)), _ => .failed
  | stepped _, phase => phase

theorem phase_of_mismatch {reply : Reply} {found : Mismatch} (h : reply.mismatch? = some found)
    (phase : Phase) : reply.phase phase = .failed := by
  match reply with
  | checked (.ok (.failed _)) => rfl
  | stepped (.ok (some _)) => rfl

theorem phase_ne_running (reply : Reply) {phase : Phase} (h : phase ≠ .running) :
    reply.phase phase ≠ .running := by
  match reply with
  | checked (.ok (.passed _)) => simp [Reply.phase]
  | checked (.ok (.failed _)) => simp [Reply.phase]
  | checked (.error _) => simp [Reply.phase]
  | stepped (.ok (some _)) => simp [Reply.phase]
  | stepped (.ok none) => exact h
  | stepped (.error _) => exact h

end Reply

variable {σ : Type} [Debugger σ]

namespace Checker

variable {checker after : Checker σ}

theorem phase_of_checkTrace {cursor : Cursor} {endpoint : String} {settings : Settings}
    {result : Except CheckError Outcome}
    (h : checkTrace cursor endpoint settings checker = (result, after)) (phase : Phase) :
    after.progress.phase = (Reply.checked result).phase phase := by
  obtain ⟨final, hends, rfl⟩ := ends_of_checkTrace h
  cases hends <;> rfl

theorem phase_of_checkRecord {record : Record} {result : Except CheckError (Option Mismatch)}
    (h : checkRecord record checker = (result, after)) :
    after.progress.phase = (Reply.stepped result).phase checker.progress.phase := by
  cases compares_of_checkRecord h <;> rfl

end Checker

namespace Task

def perform (task : Task) (checker : Checker σ) : Reply × Checker σ :=
  match task with
  | run cursor endpoint settings =>
    let (result, after) := Checker.checkTrace cursor endpoint settings checker
    (.checked result, after)
  | check storage path window endpoint settings =>
    let (result, after) := Checker.checkFile storage path window endpoint settings checker
    (.checked result, after)
  | step record =>
    let (result, after) := Checker.checkRecord record checker
    (.stepped result, after)

/-- Performs tasks in turn. A failure does not keep the next one from being performed. -/
def performAll : List Task → Checker σ → List Reply × Checker σ
  | [], checker => ([], checker)
  | task :: tasks, checker =>
    let (reply, next) := task.perform checker
    let (replies, last) := performAll tasks next
    (reply :: replies, last)

theorem phase_perform (task : Task) (checker : Checker σ) :
    (task.perform checker).2.progress.phase =
      (task.perform checker).1.phase checker.progress.phase := by
  cases task with
  | run cursor endpoint settings =>
    rcases hrun : Checker.checkTrace cursor endpoint settings checker with ⟨result, after⟩
    simp only [perform, hrun]
    exact Checker.phase_of_checkTrace hrun _
  | check storage path window endpoint settings =>
    cases ho : storage.openCursor path window with
    | error error =>
      simp only [perform, Checker.checkFile_of_unopened checker ho]
      rfl
    | ok cursor =>
      rcases hrun : Checker.checkTrace cursor endpoint settings checker with ⟨result, after⟩
      simp only [perform, Checker.checkFile_of_opened checker ho, hrun]
      exact Checker.phase_of_checkTrace hrun _
  | step record =>
    rcases hrun : Checker.checkRecord record checker with ⟨result, after⟩
    simp only [perform, hrun]
    exact Checker.phase_of_checkRecord hrun

theorem phase_performAll (tasks : List Task) (checker : Checker σ) :
    (performAll tasks checker).2.progress.phase =
      (performAll tasks checker).1.foldl (fun phase reply ↦ reply.phase phase)
        checker.progress.phase := by
  induction tasks generalizing checker with
  | nil => rfl
  | cons task tasks ih => rw [performAll, ih, List.foldl_cons, phase_perform]

theorem phase_performAll_ne_running (tasks : List Task) {checker : Checker σ}
    (h : checker.progress.phase ≠ .running) :
    (performAll tasks checker).2.progress.phase ≠ .running := by
  induction tasks generalizing checker with
  | nil => exact h
  | cons task tasks ih =>
    have hnext : (task.perform checker).2.progress.phase ≠ .running := by
      rw [phase_perform]
      exact Reply.phase_ne_running _ h
    exact ih hnext

end Task

/-- Whatever a checker was used for, its replies tell its phase. A mismatch sets it to failed, and so
does an error, but for that of a single comparison, which leaves the phase as it was. -/
theorem phase_after_tasks (tasks : List Task) (session : σ) :
    let used := Task.performAll tasks ({ session } : Checker σ)
    used.2.progress.phase = used.1.foldl (fun phase reply ↦ reply.phase phase) .init ∧
      used.2.progress.phase ≠ .running ∧
      ∀ task : Task,
        let next := task.perform used.2
        (∀ found, next.1.mismatch? = some found → next.2.progress.phase = .failed) ∧
        (∀ error, next.1 = .checked (.error error) → next.2.progress.phase = .failed) ∧
        ∀ error, next.1 = .stepped (.error error) →
          next.2.progress.phase = used.2.progress.phase := by
  intro used
  refine ⟨Task.phase_performAll tasks _, Task.phase_performAll_ne_running tasks (by simp), ?_⟩
  intro task next
  have hphase : next.2.progress.phase = next.1.phase used.2.progress.phase :=
    task.phase_perform used.2
  refine ⟨fun found h ↦ ?_, fun error h ↦ ?_, fun error h ↦ ?_⟩
  · rw [hphase, Reply.phase_of_mismatch h]
  · rw [hphase, h]
    rfl
  · rw [hphase, h]
    rfl

/-- A first comparison that gets no dump leaves the phase as if nothing had been done. -/
theorem phase_of_step_without_dump :
    let checker : Checker ScriptedSession := { session := {} }
    ∃ record, Record.parse 1 "pc:1" = .ok record ∧
      let next := (Task.step record).perform checker
      next.1 = .stepped (.error (.session ScriptedSession.exhausted)) ∧
        next.2.progress.phase = .init := by
  intro checker
  obtain ⟨record, hr⟩ : ∃ record, Record.parse 1 "pc:1" = .ok record := ⟨_, rfl⟩
  exact ⟨record, hr, rfl, rfl⟩

end Lockstep
