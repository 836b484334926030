import Lockstep.Command.Report
import Lockstep.Proofs.Checker.Echo
import Lockstep.Proofs.Trace.Counting
import Lockstep.Proofs.Trace.Reading

namespace Lockstep

/-- What validation finds in a file: the number of its records and the registers they leave, or
the first error. -/
def Storage.validate (storage : Storage) (path : String) (window : Window) :
    Except TraceError (Nat × Registers) :=
  (storage.openCursor path window).bind fun cursor ↦ Report.accumulate cursor.items 0 .zero

namespace Report

theorem accumulate_append (records : List Record) (items : List (Except TraceError Record))
    (count : Nat) (registers : Registers) :
    accumulate (records.map .ok ++ items) count registers =
      accumulate items (count + records.length)
        (records.foldl (fun golden record ↦ golden.apply record.update) registers) := by
  induction records generalizing count registers with
  | nil => rfl
  | cons record records ih =>
    rw [List.map_cons, List.cons_append, accumulate, ih, List.length_cons, List.foldl_cons,
      Nat.add_right_comm, Nat.add_assoc]

theorem accumulate_items (cursor : Cursor) :
    accumulate cursor.items 0 .zero =
      cursor.failure?.elim (.ok (cursor.records.length, .ofRecords cursor.records)) .error := by
  rw [cursor.items_eq_append, accumulate_append, Nat.zero_add]
  cases cursor.failure? <;> rfl

def Confirms (report : Report) (n : Nat) : Prop :=
  report.exitCode = 0 ∧ ∃ rest, report.messages = success s!"{n} records valid" ++ rest

theorem toList_confirmation (n : Nat) (rest : String) :
    ∃ more, (success s!"{n} records valid" ++ rest).toList =
      '✓' :: ' ' :: (Nat.toDigits 10 n ++ ' ' :: more) := by
  have ht : toString " records valid" = " records valid" := rfl
  refine ⟨"records valid\n".toList ++ rest.toList, ?_⟩
  simp [success, ht]

theorem confirmation_inj {m n : Nat} {rest rest' : String}
    (h : success s!"{m} records valid" ++ rest = success s!"{n} records valid" ++ rest') :
    m = n := by
  have hd : ∀ k : Nat, ∀ c ∈ Nat.toDigits 10 k, (c == ' ') = false := by
    intro k c hc
    have hdigit := Nat.isDigit_of_mem_toDigits (by decide) (by decide) hc
    rw [beq_eq_false_iff_ne]
    intro hs
    rw [hs] at hdigit
    cases hdigit
  obtain ⟨more, hm⟩ := toList_confirmation m rest
  obtain ⟨more', hn⟩ := toList_confirmation n rest'
  have he := hm.symm.trans ((congrArg String.toList h).trans hn)
  have hp := congrArg (Text.pieces (· == ' ')) (List.cons.inj (List.cons.inj he).2).2
  rw [Text.pieces_append_cons (hd m) rfl, Text.pieces_append_cons (hd n) rfl] at hp
  have hv := congrArg (Nat.ofDigitChars 10 · 0) (List.cons.inj hp).1
  simpa only [Nat.ofDigitChars_toDigits (by decide : 1 < 10) (by decide : 10 ≤ 10)] using hv

variable {selection : Selection} {path : String} {window : Window}

theorem ofValidate_eq (storage : Storage) (wire : Wire)
    (h : selection.resolve = some (path, window)) :
    ofValidate storage wire selection =
      { exitCode := (validation (storage.validate path window)).1
        messages := (validation (storage.validate path window)).2, wire } := by
  rw [ofValidate, h]
  rfl

theorem confirms_iff {report : Report} {found : Except TraceError (Nat × Registers)}
    (h : (report.exitCode, report.messages) = validation found) (n : Nat) :
    report.Confirms n ↔ ∃ registers, found = .ok (n, registers) := by
  rcases found with error | ⟨m, registers⟩
  · obtain ⟨hc, -⟩ := Prod.mk.inj h
    simp [Confirms, hc]
  · obtain ⟨hc, hm⟩ := Prod.mk.inj h
    constructor
    · intro hn
      obtain ⟨-, rest, hr⟩ := hn
      rw [confirmation_inj (hm.symm.trans hr)]
      exact ⟨registers, rfl⟩
    · intro hn
      obtain ⟨registers', he⟩ := hn
      cases he
      exact ⟨hc, _, hm⟩

end Report

namespace Storage

variable {storage : Storage} {path : String} {window : Window} {cursor : Cursor}

theorem validate_of_ok (h : storage.openCursor path window = .ok cursor) :
    storage.validate path window =
      cursor.failure?.elim (.ok (cursor.records.length, .ofRecords cursor.records)) .error := by
  rw [validate, h, ← Report.accumulate_items]
  rfl

theorem validate_of_error {error : TraceError}
    (h : storage.openCursor path window = .error error) :
    storage.validate path window = .error error := by
  rw [validate, h]
  rfl

end Storage

section

variable {σ : Type} [Debugger σ] {storage : Storage} {path : String} {window : Window}
  {settings : Settings} {endpoint : String} {checker after : Checker σ} {n : Nat}

theorem validate_of_passed
    (h : Checker.checkFile storage path window endpoint settings checker =
      (.ok (.passed n), after)) :
    storage.validate path window = .ok (n, after.progress.golden) := by
  obtain ⟨cursor, ho, final, hends, rfl⟩ := Checker.ends_of_checkFile h
  obtain ⟨hf, rfl, hp⟩ := progress_of_passed hends
  rw [Storage.validate_of_ok ho, hf, hp]
  rfl

theorem checkFile_of_echoes
    (h : ∀ cursor, storage.openCursor path window = .ok cursor →
      Echoes settings endpoint cursor.records checker.session) :
    (Checker.checkFile storage path window endpoint settings checker).1 =
      ((storage.validate path window).map fun found ↦ Outcome.passed found.1).mapError .trace := by
  rcases ho : storage.openCursor path window with error | cursor
  · rw [Storage.validate_of_error ho, Checker.checkFile, ho]
    rfl
  · have hrun := Checker.checkTrace_of_echoes (h cursor ho)
    rw [Storage.validate_of_ok ho, Checker.checkFile, ho]
    dsimp only
    rw [hrun]
    cases cursor.failure? <;> rfl

end

/-- A check that passes passes a trace that is valid, with its count and its registers. If the
debugger can only agree, the check finds just what validation finds, be it good or bad. -/
theorem validation_agrees (storage : Storage) (wire : Wire) (selection : Selection) {path : String}
    {window : Window} (h : selection.resolve = some (path, window)) :
    let found := storage.validate path window
    let report := Report.ofValidate storage wire selection
    (report.exitCode, report.messages) = Report.validation found ∧
    (∀ n, report.Confirms n ↔ ∃ registers, found = .ok (n, registers)) ∧
    ∀ (σ : Type) [Debugger σ] (settings : Settings) (endpoint : String) (checker : Checker σ),
      let run := Checker.checkFile storage path window endpoint settings checker
      (∀ n, run.1 = .ok (.passed n) →
        report.exitCode = 0 ∧
        report.messages = Report.success s!"{n} records valid" ++
          if n > 0 then Report.detail ("final state: " ++ run.2.progress.golden.render) else "") ∧
      ((∀ cursor, storage.openCursor path window = .ok cursor →
          Echoes settings endpoint cursor.records checker.session) →
        (∀ n, run.1 = .ok (.passed n) ↔ report.Confirms n) ∧
        ∀ error, run.1 = .error (.trace error) ↔ found = .error error) := by
  intro found report
  have hreport : (report.exitCode, report.messages) = Report.validation found := by
    simp only [report, Report.ofValidate_eq storage wire h]
    rfl
  refine ⟨hreport, Report.confirms_iff hreport, ?_⟩
  intro σ _ settings endpoint checker run
  refine ⟨fun n hn ↦ ?_, fun hechoes ↦ ?_⟩
  · have hf : found = .ok (n, run.2.progress.golden) := validate_of_passed (Prod.ext hn rfl)
    rw [hf] at hreport
    exact Prod.mk.inj hreport
  · have hrun : run.1 = (found.map fun found ↦ Outcome.passed found.1).mapError .trace :=
      checkFile_of_echoes hechoes
    rw [hrun]
    refine ⟨fun n ↦ ?_, fun error ↦ ?_⟩
    · rw [Report.confirms_iff hreport]
      rcases found with error | ⟨m, registers⟩
      · simp [Except.map, Except.mapError]
      · simp [Except.map, Except.mapError]
    · rcases found with error' | ⟨m, registers⟩
      · simp [Except.map, Except.mapError]
      · simp [Except.map, Except.mapError]

theorem validation_agrees_on_two_records :
    let storage : Storage := .ofText "pc:0x0100\naf:0x01b0,pc:0x0102\n"
    let selection : Selection := { path := some "boot.txt" }
    let records := (Cursor.ofSource ⟨Text.utf8 "pc:0x0100\naf:0x01b0,pc:0x0102\n", none⟩ {}).records
    let checker : Checker ScriptedSession := { session := .ofDumps (goldenTables records) }
    selection.resolve = some ("boot.txt", {}) ∧
    (Checker.checkFile storage "boot.txt" {} "" {} checker).1 = .ok (.passed 2) := by
  intro storage selection records checker
  have hs : selection.resolve = some ("boot.txt", {}) := rfl
  refine ⟨hs, ?_⟩
  have ho : storage.openCursor "boot.txt" {} = .ok (.ofSource _ {}) := rfl
  obtain ⟨-, hconfirms, hruns⟩ := validation_agrees storage {} selection hs
  have hfound : ∃ registers, storage.validate "boot.txt" {} = .ok (2, registers) := by
    rw [Storage.validate, ho, Except.bind, Cursor.items_ofSource]
    exact ⟨_, rfl⟩
  have hechoes : ∀ cursor, storage.openCursor "boot.txt" {} = .ok cursor →
      Echoes {} "" cursor.records checker.session := by
    intro cursor hc
    cases ho.symm.trans hc
    exact ScriptedSession.echoes_goldenTables records
  have hpassed := ((hruns ScriptedSession {} "" checker).2 hechoes).1 2
  exact hpassed.mpr ((hconfirms 2).mpr hfound)

end Lockstep
