import Lockstep.Command.Report
import Mathlib.Data.List.Induction

namespace Lockstep

theorem Tally.ofNotices_concat (notices : List Notice) (notice : Notice) :
    ofNotices (notices ++ [notice]) =
      { steps := (ofNotices notices).steps + if notice.isComparison then 1 else 0
        mismatches := (ofNotices notices).mismatches + if notice.isMismatch then 1 else 0
        resumes := (ofNotices notices).resumes + if notice.isResume then 1 else 0
        runs := (ofNotices notices).runs + if notice.isConclusion then 1 else 0 } := by
  simp only [ofNotices, List.countP_append, List.countP_singleton]

namespace Recorder

def ofNotices (clock : Nat → Elapsed) (notices : List Notice) : Recorder :=
  notices.zipIdx.foldl (fun recorder entry ↦ recorder.note (clock entry.2) entry.1) {}

theorem ofNotices_concat (clock : Nat → Elapsed) (notices : List Notice) (notice : Notice) :
    ofNotices clock (notices ++ [notice]) =
      (ofNotices clock notices).note (clock notices.length) notice := by
  simp [ofNotices, List.zipIdx_append]

/-- The counts that can be read off a recorder. A counter is a word of 64 bits, and a metric is
there only if its count is not zero. -/
structure Shows (recorder : Recorder) (tally : Tally) : Prop where
  steps : recorder.counters.getD Metric.stepsCompared 0 = UInt64.ofNat tally.steps
  steps_mem : Metric.stepsCompared ∈ recorder.counters ↔ tally.steps ≠ 0
  mismatches : recorder.counters.getD Metric.mismatches 0 = UInt64.ofNat tally.mismatches
  mismatches_mem : Metric.mismatches ∈ recorder.counters ↔ tally.mismatches ≠ 0
  resumes : (recorder.histograms.getD Metric.resumeSeconds []).length = tally.resumes
  resumes_mem : Metric.resumeSeconds ∈ recorder.histograms ↔ tally.resumes ≠ 0
  runs_mem : Metric.runSeconds ∈ recorder.gauges ↔ tally.runs ≠ 0

variable {recorder : Recorder} {tally : Tally}

theorem getD_addToCounter (recorder : Recorder) (key other : String) (amount : UInt64) :
    (recorder.addToCounter key amount).counters.getD other 0 =
      if key = other then recorder.counters.getD key 0 + amount
      else recorder.counters.getD other 0 := by
  simp [addToCounter, Std.TreeMap.getD_insert]

theorem mem_addToCounter (recorder : Recorder) (key other : String) (amount : UInt64) :
    other ∈ (recorder.addToCounter key amount).counters ↔
      key = other ∨ other ∈ recorder.counters := by
  simp [addToCounter]

theorem getD_addToCounter_self {key : String} {count : Nat}
    (h : recorder.counters.getD key 0 = UInt64.ofNat count) :
    (recorder.addToCounter key 1).counters.getD key 0 = UInt64.ofNat (count + 1) := by
  rw [getD_addToCounter, if_pos rfl, h, UInt64.ofNat_add]
  rfl

theorem shows_empty : Shows {} ⟨0, 0, 0, 0⟩ := by
  constructor <;> simp

theorem Shows.noteStep (h : recorder.Shows tally) :
    recorder.noteStep.Shows { tally with steps := tally.steps + 1 } := by
  have hne : ¬ Metric.stepsCompared = Metric.mismatches := by decide
  refine ⟨getD_addToCounter_self h.steps, ?_, ?_, ?_, h.resumes, h.resumes_mem, h.runs_mem⟩
  · simp [Recorder.noteStep, mem_addToCounter]
  · rw [Recorder.noteStep, getD_addToCounter, if_neg hne, h.mismatches]
  · simp [Recorder.noteStep, mem_addToCounter, hne, h.mismatches_mem]

theorem Shows.noteResume (h : recorder.Shows tally) (span : Elapsed) :
    (recorder.noteResume span).Shows { tally with resumes := tally.resumes + 1 } := by
  refine ⟨h.steps, h.steps_mem, h.mismatches, h.mismatches_mem, ?_, ?_, h.runs_mem⟩
  · simp [Recorder.noteResume, observe, h.resumes]
  · simp [Recorder.noteResume, observe]

theorem Shows.noteMismatch (h : recorder.Shows tally) :
    (recorder.addToCounter Metric.mismatches 1).Shows
      { tally with mismatches := tally.mismatches + 1 } := by
  have hne : ¬ Metric.mismatches = Metric.stepsCompared := by decide
  refine ⟨?_, ?_, getD_addToCounter_self h.mismatches, ?_, h.resumes, h.resumes_mem, h.runs_mem⟩
  · rw [getD_addToCounter, if_neg hne, h.steps]
  · simp [mem_addToCounter, hne, h.steps_mem]
  · simp [mem_addToCounter]

theorem Shows.setRun (h : recorder.Shows tally) (value : Measurement) :
    (recorder.setGauge Metric.runSeconds value).Shows { tally with runs := tally.runs + 1 } := by
  refine ⟨h.steps, h.steps_mem, h.mismatches, h.mismatches_mem, h.resumes, h.resumes_mem, ?_⟩
  simp [setGauge]

theorem Shows.note {notices : List Notice} (h : recorder.Shows (.ofNotices notices))
    (span : Elapsed) (notice : Notice) :
    (recorder.note span notice).Shows (.ofNotices (notices ++ [notice])) := by
  rw [Tally.ofNotices_concat]
  cases notice with
  | resumed => exact h.noteResume span
  | compared => exact h.noteStep
  | stepped step pc => exact h
  | concluded outcome =>
    cases outcome with
    | passed compared => exact h.setRun _
    | failed found => exact h.noteMismatch.setRun _

theorem shows_ofNotices (clock : Nat → Elapsed) (notices : List Notice) :
    (ofNotices clock notices).Shows (.ofNotices notices) := by
  induction notices using List.reverseRecOn with
  | nil => exact shows_empty
  | append_singleton notices notice ih =>
    rw [ofNotices_concat]
    exact ih.note _ notice

end Recorder

theorem Report.recorder_eq_ofNotices (report : Report) :
    report.recorder = Recorder.ofNotices (fun _ ↦ ⟨0⟩) report.notices := by
  have h : report.notices = report.notices.zipIdx.map Prod.fst := by simp
  rw [recorder, Recorder.ofNotices]
  conv_lhs => rw [h, List.foldl_map]

end Lockstep
