import Lockstep.Proofs.Checker.Steps
import Lockstep.Session.Script

namespace Lockstep

theorem Registers.apply_apply (registers : Registers) (update : Update) :
    (registers.apply update).apply update = registers.apply update := by
  apply Bank.ext_get
  intro register
  rw [get_apply, get_apply]
  cases update.get register <;> rfl

/-- What comes of a comparison by what its session answers, once the golden registers have taken the
record: its result, and the progress after it. -/
def Progress.judge (progress : Progress) (line : Nat) :
    Except SessionError String → Except CheckError (Option Mismatch) × Progress
  | .error error => (.error (.session error), progress)
  | .ok dump =>
    match Registers.mergeDump dump progress.live with
    | (.error error, live) => (.error (.registers error), { progress with live })
    | (.ok (), live) =>
      let step := progress.compared + 1
      if live = progress.golden then (.ok none, { progress with live, compared := step })
      else (.ok (some ⟨step, line, live, progress.golden⟩),
        { progress with live, compared := step, phase := .failed })

theorem Checker.merge_merge {σ : Type} (checker : Checker σ) (record : Record) :
    (checker.merge record).merge record = checker.merge record := by
  simp only [merge, Registers.apply_apply]

variable {σ τ : Type} [Debugger σ] [Debugger τ] {record : Record} {checker after : Checker σ}
  {result : Except CheckError (Option Mismatch)} {error : CheckError}

theorem Debugger.sample_of_reach_error {pc : Word} {debugger next : σ} {error : SessionError}
    (h : reach pc debugger = (.error error, next)) : sample pc debugger = (.error error, next) :=
  Attempt.bind_eq_error_iff.mpr (.inl h)

theorem Debugger.sample_of_dump_error {pc : Word} {debugger reached next : σ}
    {error : SessionError} (h : reach pc debugger = (.ok (), reached))
    (hd : dump reached = (.error error, next)) : sample pc debugger = (.error error, next) :=
  Attempt.bind_eq_error_iff.mpr (.inr ⟨(), reached, h, hd⟩)

namespace Checker

theorem judge_checkRecord (record : Record) (checker : Checker σ) :
    let run := checkRecord record checker
    (checker.merge record).progress.judge record.line
      (Debugger.sample record.pc checker.session).1 = (run.1, run.2.progress) := by
  rcases h : checkRecord record checker with ⟨result, after⟩
  cases compares_of_checkRecord h with
  | notReached hr =>
    rw [Debugger.sample_of_reach_error hr]
    rfl
  | notDumped hr hd =>
    rw [Debugger.sample_of_dump_error hr hd]
    rfl
  | badDump hs hb => simp only [hs, Progress.judge, merge, Registers.mergeDump_of_error hb]
  | matched hs hg hl => simp only [hs, Progress.judge, merge, hl, hg, if_true]
  | mismatched hs hg hl hn => simp only [hs, Progress.judge, merge, hl, hg, if_neg hn]

theorem steps_checkRecord (record : Record) (checker : Checker σ) :
    let run := checkRecord record checker
    run.2.notices.filterMap Notice.step? = checker.notices.filterMap Notice.step? ++
      if run.1.toBool then [(checker.progress.compared + 1, record.pc)] else [] := by
  rcases h : checkRecord record checker with ⟨result, after⟩
  cases compares_of_checkRecord h with
  | notReached => exact (List.append_nil _).symm
  | notDumped | badDump | matched | mismatched => exact List.filterMap_append

theorem session_checkRecord (record : Record) (checker : Checker σ) :
    (checkRecord record checker).2.session = (Debugger.sample record.pc checker.session).2 := by
  rcases h : checkRecord record checker with ⟨result, after⟩
  cases compares_of_checkRecord h with
  | notReached hr => rw [Debugger.sample_of_reach_error hr]
  | notDumped hr hd => rw [Debugger.sample_of_dump_error hr hd]
  | badDump hs | matched hs | mismatched hs => rw [hs]

theorem progress_of_error (h : checkRecord record checker = (.error error, after)) :
    after.progress = (checker.merge record).progress := by
  cases compares_of_checkRecord h with
  | notReached | notDumped | badDump => rfl

theorem notices_of_error (h : checkRecord record checker = (.error error, after)) :
    after.notices = checker.notices ∨ after.notices = checker.notices ++ [.resumed] := by
  cases compares_of_checkRecord h with
  | notReached => exact .inl rfl
  | notDumped | badDump => exact .inr rfl

theorem cause_of_error (h : checkRecord record checker = (.error error, after)) :
    (∃ cause, (Debugger.sample record.pc checker.session).1 = .error cause ∧
      error = .session cause) ∨
    ∃ dump cause, (Debugger.sample record.pc checker.session).1 = .ok dump ∧
      (Registers.mergeDump dump checker.progress.live).1 = .error cause ∧ error = .registers cause := by
  cases compares_of_checkRecord h with
  | notReached hr => exact .inl ⟨_, by rw [Debugger.sample_of_reach_error hr], rfl⟩
  | notDumped hr hd => exact .inl ⟨_, by rw [Debugger.sample_of_dump_error hr hd], rfl⟩
  | badDump hs hb => exact .inr ⟨_, _, by rw [hs], hb, rfl⟩

theorem checkRecord_congr {other : Checker τ}
    (hp : (checker.merge record).progress = (other.merge record).progress)
    (ha : (Debugger.sample record.pc checker.session).1 =
      (Debugger.sample record.pc other.session).1) :
    (checkRecord record checker).1 = (checkRecord record other).1 ∧
      (checkRecord record checker).2.progress = (checkRecord record other).2.progress := by
  have h := judge_checkRecord record checker
  have h' := judge_checkRecord record other
  rw [hp, ha] at h
  exact Prod.mk.inj (h.symm.trans h')

end Checker

/-- A comparison that breaks off leaves the merged golden registers behind and nothing else that a
second one with the same record would notice. -/
theorem retry_after_error (h : Checker.checkRecord record checker = (.error error, after)) :
    ((∃ cause, (Debugger.sample record.pc checker.session).1 = .error cause ∧
        error = .session cause) ∨
      ∃ dump cause, (Debugger.sample record.pc checker.session).1 = .ok dump ∧
        (Registers.mergeDump dump checker.progress.live).1 = .error cause ∧ error = .registers cause) ∧
    after.progress =
      { checker.progress with golden := checker.progress.golden.apply record.update } ∧
    after.notices.filterMap Notice.step? = checker.notices.filterMap Notice.step? ∧
    (Tally.ofNotices after.notices).steps = (Tally.ofNotices checker.notices).steps ∧
    ∀ (again : σ) (once : τ),
      (Debugger.sample record.pc again).1 = (Debugger.sample record.pc once).1 →
      let retry := Checker.checkRecord record { after with session := again }
      let single := Checker.checkRecord record
        ({ checker with session := once } : Checker τ)
      retry.1 = single.1 ∧ retry.2.progress = single.2.progress ∧
        retry.2.session = (Debugger.sample record.pc again).2 ∧
        single.2.session = (Debugger.sample record.pc once).2 ∧
        ∃ steps, retry.2.notices.filterMap Notice.step? =
            after.notices.filterMap Notice.step? ++ steps ∧
          single.2.notices.filterMap Notice.step? =
            checker.notices.filterMap Notice.step? ++ steps := by
  have hprogress := Checker.progress_of_error h
  refine ⟨Checker.cause_of_error h, hprogress, ?_, ?_, ?_⟩
  · have hsteps := Checker.steps_checkRecord record checker
    rw [h] at hsteps
    exact hsteps.trans (List.append_nil _)
  · obtain hn | hn := Checker.notices_of_error h
    · rw [hn]
    · rw [hn, Tally.ofNotices, List.countP_append]
      rfl
  · intro again once ha retry single
    let broken : Checker σ := { after with session := again }
    let fresh : Checker τ := { checker with session := once }
    have hmerge : (broken.merge record).progress = (fresh.merge record).progress := by
      change _ = (checker.merge record).progress
      rw [← Checker.merge_merge checker record]
      simp only [broken, Checker.merge, hprogress]
    obtain ⟨hresult, hfinal⟩ := Checker.checkRecord_congr hmerge ha
    have hcompared : broken.progress.compared = fresh.progress.compared := by
      change after.progress.compared = _
      rw [hprogress]
      rfl
    refine ⟨hresult, hfinal, Checker.session_checkRecord record broken,
      Checker.session_checkRecord record fresh, _, Checker.steps_checkRecord record broken, ?_⟩
    rw [hcompared, hresult]
    exact Checker.steps_checkRecord record fresh

theorem retry_after_bad_dump :
    let record : Record := ⟨1, Update.empty.write .pc 1, 1, rfl⟩
    let checker : Checker ScriptedSession := { session := { script := { dump := [.ok "af 1\npc ?"] } } }
    let first := Checker.checkRecord record checker
    let answering : ScriptedSession := { script := { dump := [.ok "pc 1"] } }
    let retry := Checker.checkRecord record { first.2 with session := answering }
    let single := Checker.checkRecord record { checker with session := answering }
    first.2.progress = { golden := { Registers.zero with pc := 1 } } ∧
      retry.1 = .ok none ∧ retry.1 = single.1 ∧ retry.2.progress = single.2.progress ∧
      retry.2.notices.filterMap Notice.step? = [(1, 1)] := by
  intro record checker first answering retry single
  have h : first = (.error (.registers (.invalidHex "?")), first.2) := rfl
  obtain ⟨-, hprogress, -, -, hretry⟩ := retry_after_error (τ := ScriptedSession) h
  obtain ⟨hresult, hfinal, -⟩ := hretry answering answering rfl
  exact ⟨hprogress, rfl, hresult, hfinal, rfl⟩

end Lockstep
