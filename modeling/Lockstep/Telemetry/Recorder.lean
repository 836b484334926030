import Lockstep.Checker.Basic
import Lockstep.Telemetry.Measurement
import Std.Data.TreeMap

namespace Lockstep

namespace Metric

def stepsCompared : String := "bootcheck_steps_compared_total"

def mismatches : String := "bootcheck_mismatches_total"

def resumeSeconds : String := "bootcheck_resume_seconds"

def runSeconds : String := "bootcheck_run_duration_seconds"

end Metric

/-- Counters, gauges and histograms by name. Names are ordered by their code points, and counters
wrap around. -/
structure Recorder where
  counters : Std.TreeMap String UInt64 := {}
  gauges : Std.TreeMap String Measurement := {}
  histograms : Std.TreeMap String (List Measurement) := {}

namespace Recorder

def addToCounter (recorder : Recorder) (key : String) (amount : UInt64) : Recorder :=
  { recorder with
    counters := recorder.counters.insert key (recorder.counters.getD key 0 + amount) }

def setCounter (recorder : Recorder) (key : String) (value : UInt64) : Recorder :=
  { recorder with counters := recorder.counters.insert key value }

def setGauge (recorder : Recorder) (key : String) (value : Measurement) : Recorder :=
  { recorder with gauges := recorder.gauges.insert key value }

def addToGauge (recorder : Recorder) (key : String) (amount : Measurement) : Recorder :=
  recorder.setGauge key ((recorder.gauges.getD key .zero).add amount)

def takeFromGauge (recorder : Recorder) (key : String) (amount : Measurement) : Recorder :=
  recorder.setGauge key ((recorder.gauges.getD key .zero).sub amount)

def observe (recorder : Recorder) (key : String) (value : Measurement) : Recorder :=
  { recorder with
    histograms := recorder.histograms.insert key (recorder.histograms.getD key [] ++ [value]) }

def seconds (span : Elapsed) : Measurement :=
  .ofFloat ((UInt64.ofNat (span.nanos / 1000000000)).toFloat +
    (UInt64.ofNat (span.nanos % 1000000000)).toFloat / 1000000000.0)

def noteStep (recorder : Recorder) : Recorder :=
  recorder.addToCounter Metric.stepsCompared 1

def noteResume (recorder : Recorder) (span : Elapsed) : Recorder :=
  recorder.observe Metric.resumeSeconds (seconds span)

def noteConclusion (recorder : Recorder) (passed : Bool) (span : Elapsed) : Recorder :=
  let counted := if passed then recorder else recorder.addToCounter Metric.mismatches 1
  counted.setGauge Metric.runSeconds (seconds span)

def note (recorder : Recorder) (span : Elapsed) : Notice → Recorder
  | .resumed => recorder.noteResume span
  | .compared => recorder.noteStep
  | .stepped _ _ => recorder
  | .concluded outcome => recorder.noteConclusion outcome.isPassed span

def isEmpty (recorder : Recorder) : Bool :=
  recorder.counters.isEmpty && recorder.gauges.isEmpty && recorder.histograms.isEmpty

def counterLine (entry : String × UInt64) : String :=
  "  " ++ entry.1 ++ ": " ++ toString entry.2.toNat ++ "\n"

def gaugeLine (entry : String × Measurement) : String :=
  "  " ++ entry.1 ++ ": " ++ entry.2.text ++ "\n"

def histogramLine (entry : String × List Measurement) : String :=
  "  " ++ entry.1 ++ ": n=" ++ toString entry.2.length ++
    " mean=" ++ (Measurement.mean entry.2).text ++
    " max=" ++ (Measurement.peak entry.2).text ++ "\n"

def summary (recorder : Recorder) : String :=
  if recorder.isEmpty then "No metrics collected.\n"
  else "\n## Metrics Summary\n" ++
    String.join (recorder.counters.toList.map counterLine) ++
    String.join (recorder.gauges.toList.map gaugeLine) ++
    String.join (recorder.histograms.toList.map histogramLine)

end Recorder

end Lockstep
