import Lockstep.Command.Report
import Lockstep.Proofs.Checker.Verdict
import Lockstep.Proofs.Register.Render
import Lockstep.Proofs.Remote.Comparison

namespace Lockstep

theorem live_ne_golden_of_failed {σ : Type} [Debugger σ] {storage : Storage} {path : String}
    {window : Window} {settings : Settings} {endpoint : String} {checker after : Checker σ}
    {found : Mismatch}
    (h : Checker.checkFile storage path window endpoint settings checker =
      (.ok (.failed found), after)) :
    found.live ≠ found.golden := by
  obtain ⟨cursor, -, final, hends, -⟩ := Checker.ends_of_checkFile h
  cases hends with
  | mismatch hr hm hs hl hn hf =>
    rw [hf]
    exact hn

namespace Report

theorem ofInvocation_check {selection : Selection} {path : String} {window : Window}
    (h : selection.resolve = some (path, window)) (storage : Storage) (wire : Wire)
    (endpoint arch : String) (timeoutSecs : Option Nat) (verbose silent : Bool) :
    let settings : Settings :=
      { architecture := arch, resumeLimit := timeoutSecs.map fun secs ↦ .ofParts secs 0 }
    let checker : Checker RemoteSession := { session := { wire } }
    let ended := conclusion (Checker.checkFile storage path window endpoint settings checker).1
    let report :=
      ofInvocation storage wire ⟨false, verbose, silent, .check selection endpoint arch timeoutSecs⟩
    report.exitCode = ended.2.2 ∧ report.out = ended.1 ∧
      report.messages = heading path window ++ ended.2.1 := by
  intro settings checker ended report
  have hr : report = ofCheck storage wire selection endpoint arch timeoutSecs := rfl
  rw [hr, ofCheck, h]
  exact ⟨rfl, rfl, rfl⟩

end Report

/-- The check command succeeds exactly if the check passes, and only a mismatch is printed: two
lines from which both states can be read back. The registers that differ are named beside it. -/
theorem check_contract {selection : Selection} {path : String} {window : Window}
    (h : selection.resolve = some (path, window)) (storage : Storage) (wire : Wire)
    (endpoint arch : String) (timeoutSecs : Option Nat) (verbose silent : Bool) :
    let settings : Settings :=
      { architecture := arch, resumeLimit := timeoutSecs.map fun secs ↦ .ofParts secs 0 }
    let checker : Checker RemoteSession := { session := { wire } }
    let result := (Checker.checkFile storage path window endpoint settings checker).1
    let report := Report.ofInvocation storage wire
      ⟨false, verbose, silent, .check selection endpoint arch timeoutSecs⟩
    (report.exitCode = 0 ↔ ∃ compared, result = .ok (.passed compared)) ∧
    (report.exitCode = 0 → report.out = "") ∧
    (∀ found, result = .ok (.failed found) →
      report.exitCode = 1 ∧ found.live ≠ found.golden ∧
      (∃ live golden : String,
        report.out = "live:   " ++ live ++ "\ngolden: " ++ golden ++ "\n" ∧
        '\n' ∉ live.toList ∧ '\n' ∉ golden.toList ∧
        Registers.parse live = .ok found.live ∧ Registers.parse golden = .ok found.golden) ∧
      ∃ registers : List Register,
        report.messages = Report.heading path window ++
          Report.failure (s!"mismatch at step {found.step} (trace line {found.line}): " ++
            ", ".intercalate (registers.map Register.name)) ∧
        registers ≠ [] ∧ registers.Sublist Register.all ∧
        ∀ register, register ∈ registers ↔
          found.live.get register ≠ found.golden.get register) ∧
    ∀ error, result = .error error → report.exitCode = 1 ∧ report.out = "" := by
  intro settings checker result report
  obtain ⟨hcode, hout, hmessages⟩ :=
    Report.ofInvocation_check h storage wire endpoint arch timeoutSecs verbose silent
  change report.exitCode = (Report.conclusion result).2.2 at hcode
  change report.out = (Report.conclusion result).1 at hout
  change report.messages = _ ++ (Report.conclusion result).2.1 at hmessages
  have hrun : Checker.checkFile storage path window endpoint settings checker =
    (result, (Checker.checkFile storage path window endpoint settings checker).2) := rfl
  rcases hresult : result with error | ⟨compared⟩ | ⟨found⟩
  · rw [hresult] at hcode hout hmessages
    simp [hcode, hout, Report.conclusion]
  · rw [hresult] at hcode hout hmessages
    simp [hcode, hout, Report.conclusion, Outcome.exitCode]
  · rw [hresult] at hcode hout hmessages hrun
    have hne := live_ne_golden_of_failed hrun
    have hfailed : report.exitCode = 1 := hcode
    refine ⟨by simp [hfailed], by simp [hfailed], fun found' he ↦ ?_, fun error he ↦ by cases he⟩
    cases he
    refine ⟨hfailed, hne, ?_, found.registers, hmessages, Mismatch.registers_ne_nil hne,
      List.filter_sublist, found.mem_registers⟩
    exact ⟨found.live.render, found.golden.render, hout, found.live.newline_notMem_render,
      found.golden.newline_notMem_render, found.live.parse_render, found.golden.parse_render⟩

def overrunStub : Stub := ⟨⟨"hwbreak+", "S05", "1"⟩, [⟨"S05", ⟨0x1b0, 0, 0, 0, 0xfffe, 2⟩, 0⟩]⟩

theorem checkFile_overrunStub {settings : Settings}
    (ha : RegisterBlock.layout? settings.architecture = some Register.all)
    (hl : settings.resumeLimit ≠ some ⟨0⟩) :
    (Checker.checkFile twoRecords "trace" {} defaultEndpoint settings
        ({ session := { wire := overrunStub.wire } } : Checker RemoteSession)).1 =
      .ok (.failed ⟨1, 1, ⟨0x1b0, 0, 0, 0, 0xfffe, 2⟩, ⟨0, 0, 0, 0, 0, 1⟩⟩) := by
  have hserves : overrunStub.Serves overrunStub.wire defaultEndpoint :=
    Stub.serves_wire isSignal_S05 (by simpa [overrunStub] using isSignal_S05)
  have hrecord : twoRecordsCursor.records[0]? =
      some ⟨1, ⟨none, none, none, none, none, some 1⟩, 1, rfl⟩ := by
    rw [records_twoRecordsCursor.1]
    rfl
  have hgolden : Registers.ofRecords (twoRecordsCursor.records.take 1) = ⟨0, 0, 0, 0, 0, 1⟩ := by
    rw [records_twoRecordsCursor.1]
    rfl
  have hopen : twoRecords.openCursor "trace" {} = .ok twoRecordsCursor := rfl
  obtain ⟨final, hends, -⟩ := Stub.ends_failed_of_serves hserves ha hl (by decide) hrecord
    rfl ⟨rfl, by simp⟩ (by rw [Nat.zero_add, hgolden]; decide)
  rw [Nat.zero_add, hgolden] at hends
  exact congrArg Prod.fst (Checker.checkFile_of_ends { session := _ } hopen hends)

theorem check_contract_of_overrun :
    let selection : Selection := { path := some "trace" }
    let report := Report.ofInvocation twoRecords overrunStub.wire
      ⟨false, false, false, .check selection defaultEndpoint "gbz80" none⟩
    selection.resolve = some ("trace", {}) ∧ report.exitCode = 1 ∧
      ∃ live golden : String,
        report.out = "live:   " ++ live ++ "\ngolden: " ++ golden ++ "\n" ∧
        Registers.parse live = .ok ⟨0x1b0, 0, 0, 0, 0xfffe, 2⟩ ∧
        Registers.parse golden = .ok ⟨0, 0, 0, 0, 0, 1⟩ := by
  have hs : Selection.resolve { path := some "trace" } = some ("trace", {}) := rfl
  obtain ⟨-, -, hm, -⟩ :=
    check_contract hs twoRecords overrunStub.wire defaultEndpoint "gbz80" none false false
  obtain ⟨hc, -, ⟨live, golden, ho, -, -, hl, hg⟩, -⟩ :=
    hm _ (checkFile_overrunStub (by decide) (by decide))
  exact ⟨hs, hc, live, golden, ho, hl, hg⟩

end Lockstep
