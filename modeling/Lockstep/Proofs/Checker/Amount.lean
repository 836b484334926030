import Lockstep.Proofs.Checker.Conduct
import Lockstep.Proofs.Trace.Counting

namespace Lockstep

variable {σ : Type}

/-- A run that makes no more than so many comparisons, and exactly as many if it passes. -/
structure StaysWithin (n : Nat) (before : Checker σ)
    (run : Except CheckError Outcome × Checker σ) : Prop where
  compared_le : run.2.progress.compared ≤ n
  steps_le : ∃ notices, run.2.notices = before.notices ++ notices ∧
    ∀ step pc, .stepped step pc ∈ notices → step ≤ n
  compared_eq : ∀ m, run.1 = .ok (.passed m) → m = n ∧ run.2.progress.compared = n

variable [Debugger σ] {cursor : Cursor} {settings : Settings} {endpoint : String} {n : Nat}

theorem step_le_of_ends {start : σ} {result : Except CheckError Outcome} {final : Checker σ}
    (h : Ends cursor settings endpoint start result final) {step : Nat} {pc : Word}
    (hm : .stepped step pc ∈ final.notices) : step ≤ final.progress.compared := by
  have hs : (step, pc) ∈ final.notices.filterMap Notice.step? :=
    List.mem_filterMap.mpr ⟨_, hm, rfl⟩
  rw [(steps_of_ends h).2] at hs
  obtain ⟨i, hi, he⟩ := List.mem_mapIdx.mp hs
  rw [List.length_take] at hi
  obtain ⟨rfl, -⟩ := Prod.mk.inj he
  omega

theorem staysWithin_of_records (hle : cursor.records.length ≤ n)
    (heq : cursor.failure? = none → cursor.records.length = n) (checker : Checker σ) :
    StaysWithin n checker (Checker.checkTrace cursor endpoint settings checker) := by
  rcases hrun : Checker.checkTrace cursor endpoint settings checker with ⟨result, after⟩
  obtain ⟨final, h, rfl⟩ := Checker.ends_of_checkTrace hrun
  have hc := (steps_of_ends h).1
  refine ⟨Nat.le_trans hc hle, ⟨final.notices, rfl, ?_⟩, ?_⟩
  · intro step pc hm
    have hs := step_le_of_ends h hm
    omega
  · intro m hm
    cases hm
    obtain ⟨hf, rfl, hp⟩ := progress_of_passed h
    have hn := heq hf
    exact ⟨hn, (congrArg Progress.compared hp).trans hn⟩

/-- The count of a file, of which every line has to be readable, is a bound for whatever reads it.
A cursor falls short of it only by an error, and a check only if it does not pass. A line that a
cursor cannot read cannot be counted either, and the same goes for the file. -/
theorem recordCount_bounds (storage : Storage) (path : String) (window : Window) :
    (∀ n, storage.recordCount path window = .ok n ↔
      ∃ source, storage.openTrace path = .ok source ∧
        (∀ line ∈ source.lines, line.isOk = true) ∧ n = window.count source.lines.length) ∧
    (∀ n, storage.recordCount path window = .ok n →
      (∃ cursor, storage.openCursor path window = .ok cursor ∧ cursor.EmitsWithin n) ∧
      ∀ (σ : Type) [Debugger σ] (settings : Settings) (endpoint : String) (checker : Checker σ),
        StaysWithin n checker
          (Checker.checkFile storage path window endpoint settings checker)) ∧
    (∀ cursor call line fault, storage.openCursor path window = .ok cursor →
      cursor.result call = some (.error (.unreadable line fault)) →
      storage.recordCount path window = .error (.unreadable line fault)) ∧
    ∀ error,
      (storage.openCursor path window = .error error ↔
        ∃ fault, error = .unavailable path fault ∧
          (storage.read path = .error fault ∨ ∃ archive, storage.read path = .ok archive ∧
            Storage.extension? path = some "zst" ∧ storage.decompress archive = .error fault)) ∧
      (storage.openCursor path window = .error error →
        storage.recordCount path window = .error error) := by
  refine ⟨fun n ↦ ?_, fun n h ↦ ?_, fun cursor call line fault ho hr ↦ ?_, fun error ↦ ?_⟩
  · simp only [Storage.recordCount_eq_ok_iff, Source.recordCount_eq_ok_iff]
  · obtain ⟨source, ht, hn⟩ := Storage.recordCount_eq_ok_iff.mp h
    have ho : storage.openCursor path window = .ok (.ofSource source window) :=
      Storage.openCursor_eq_ok_iff.mpr ⟨source, ht, rfl⟩
    refine ⟨⟨_, ho, Source.emitsWithin_of_count hn⟩, ?_⟩
    intro σ _ settings endpoint checker
    obtain ⟨hle, heq⟩ := Source.length_records_of_count hn
    simp only [Checker.checkFile, ho]
    exact staysWithin_of_records hle heq.mpr checker
  · obtain ⟨source, ht, rfl⟩ := Storage.openCursor_eq_ok_iff.mp ho
    rw [Storage.recordCount, ht]
    exact Source.recordCount_of_unreadable hr
  · rw [Storage.openCursor_eq_error_iff]
    refine ⟨Storage.openTrace_eq_error_iff, fun ht ↦ ?_⟩
    rw [Storage.recordCount, ht]
    rfl

end Lockstep
