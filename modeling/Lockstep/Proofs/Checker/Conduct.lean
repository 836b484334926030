import Lockstep.Proofs.Checker.Calls

namespace Lockstep

/-- All calls of a run in which nothing goes wrong on the way. A trace that ends in an error is
never let go of. -/
def itinerary (cursor : Cursor) (settings : Settings) (endpoint : String) : List Call :=
  .configure settings :: .attach endpoint ::
    (cursor.records.map Record.pc).flatMap (fun pc ↦ [.breakAt pc, .resume, .dump]) ++
      if cursor.failure? = none then [.disconnect] else []

/-- The log of a run keeps to the protocol. -/
structure Conforms (cursor : Cursor) (settings : Settings) (endpoint : String) (log : Log) :
    Prop where
  nothing_iff : log = [] ↔ ∃ error, cursor.next.1 = some (.error error)
  in_order : log.map Prod.fst <+: itinerary cursor settings endpoint
  only_after_success : ∀ entry ∈ log.dropLast, ∀ error, entry.2 ≠ .refused error
  only_after_agreement :
    Agree (cursor.records.take (Log.dumps log.dropLast).length) (Log.dumps log.dropLast)
  disconnect_iff : .disconnect ∈ log.map Prod.fst ↔
    (.attach endpoint, .done) ∈ log ∧ Agree cursor.records log.dumps ∧ cursor.failure? = none
  disconnect_once : (log.map Prod.fst).count .disconnect ≤ 1

section

variable {cursor : Cursor} {settings : Settings} {endpoint : String}

theorem count_disconnect_itinerary :
    (itinerary cursor settings endpoint).count .disconnect ≤ 1 := by
  have hzero (pcs : List Word) :
      (pcs.flatMap fun pc ↦ [Call.breakAt pc, .resume, .dump]).count .disconnect = 0 := by
    simp [List.count_eq_zero]
  by_cases hf : cursor.failure? = none <;> simp [itinerary, hf, hzero]

theorem disconnect_once_of_prefix {calls : List Call}
    (h : calls <+: itinerary cursor settings endpoint) : calls.count .disconnect ≤ 1 :=
  Nat.le_trans (h.sublist.count_le _) count_disconnect_itinerary

theorem conforms_nil {error : TraceError} (hr : cursor.records = [])
    (hf : cursor.failure? = some error) : Conforms cursor settings endpoint [] where
  nothing_iff := by simpa using ⟨error, (cursor.next_eq_error_iff error).mpr ⟨hr, hf⟩⟩
  in_order := by simp
  only_after_success := by simp
  only_after_agreement := by simpa [Log.dumps] using Agree.nil
  disconnect_iff := by simp
  disconnect_once := by simp

theorem nothing_iff_of_ne_nil {log : Log} (hlog : log ≠ [])
    (hh : cursor.records = [] → cursor.failure? = none) :
    log = [] ↔ ∃ error, cursor.next.1 = some (.error error) := by
  constructor
  · intro h
    exact absurd h hlog
  · rintro ⟨error, h⟩
    obtain ⟨hr, hf⟩ := (cursor.next_eq_error_iff error).mp h
    rw [hh hr] at hf
    cases hf

theorem conforms_of_engage {log : Log} {error : SessionError}
    (hh : cursor.records = [] → cursor.failure? = none)
    (hlog : log = [(.configure settings, .refused error)] ∨
      log = [(.configure settings, .done), (.attach endpoint, .refused error)]) :
    Conforms cursor settings endpoint log := by
  obtain rfl | rfl := hlog
  · refine ⟨nothing_iff_of_ne_nil (by simp) hh, ?_, by simp, ?_, by simp, by simp⟩
    · simp [itinerary]
    · simpa [Log.dumps] using Agree.nil
  · refine ⟨nothing_iff_of_ne_nil (by simp) hh, ?_, by simp, ?_, by simp, by simp⟩
    · simp [itinerary]
    · simpa [Log.dumps, Answer.text?] using Agree.nil

variable {earlier later : List Record} {record : Record} {dumps : List String} {tail : Log}

theorem agree_of_tail (hr : earlier <+: cursor.records) (ha : Agree earlier dumps)
    (ht : ∀ entry ∈ tail.dropLast, entry.2 = .done) :
    let log := Log.survey settings endpoint (earlier.map Record.pc) dumps ++ tail
    Agree (cursor.records.take (Log.dumps log.dropLast).length) (Log.dumps log.dropLast) := by
  intro log
  have hlen : dumps.length = (earlier.map Record.pc).length := by simp [ha.length_eq]
  have hdumps : Log.dumps log.dropLast <+: dumps := by
    by_cases hn : tail = []
    · subst hn
      have h := Log.dumps_prefix log.dropLast_prefix
      simp only [log, List.append_nil] at h ⊢
      rwa [Log.dumps_survey _ _ hlen] at h
    · have hnone : Log.dumps tail.dropLast = [] :=
        List.filterMap_eq_nil_iff.mpr fun entry h ↦ by rw [ht entry h]; rfl
      rw [List.dropLast_append_of_ne_nil hn, Log.dumps_append, Log.dumps_survey _ _ hlen, hnone]
      simp
  have h := ha.of_prefix hdumps
  obtain ⟨rest, hrest⟩ := hr
  rwa [← hrest, List.take_append_of_le_length]
  rw [← ha.length_eq]
  exact hdumps.length_le

theorem only_after_success_of_tail (ht : ∀ entry ∈ tail.dropLast, entry.2 = .done) :
    ∀ entry ∈ (Log.survey settings endpoint (earlier.map Record.pc) dumps ++ tail).dropLast,
      ∀ error, entry.2 ≠ .refused error := by
  intro entry h error
  by_cases hn : tail = []
  · subst hn
    rw [List.append_nil] at h
    exact Log.answer_survey settings endpoint (List.dropLast_subset _ h) error
  · rw [List.dropLast_append_of_ne_nil hn, List.mem_append] at h
    obtain h | h := h
    · exact Log.answer_survey settings endpoint h error
    · rw [ht entry h]
      simp

theorem survey_ne_nil (pcs : List Word) : Log.survey settings endpoint pcs dumps ≠ [] := by
  simp [Log.survey, Log.opening]

theorem disconnect_notMem_survey {pcs : List Word} (hlen : dumps.length = pcs.length) :
    .disconnect ∉ (Log.survey settings endpoint pcs dumps).map Prod.fst := by
  simp [Log.calls_survey settings endpoint hlen]

theorem conforms_of_round (hr : cursor.records = earlier ++ record :: later)
    (ha : Agree earlier dumps)
    (hcalls : tail.map Prod.fst <+: [.breakAt record.pc, .resume, .dump])
    (ht : ∀ entry ∈ tail.dropLast, entry.2 = .done)
    (hn : ¬ Agree cursor.records (dumps ++ tail.dumps)) :
    Conforms cursor settings endpoint
      (Log.survey settings endpoint (earlier.map Record.pc) dumps ++ tail) := by
  have hlen : dumps.length = (earlier.map Record.pc).length := by simp [ha.length_eq]
  have horder : (Log.survey settings endpoint (earlier.map Record.pc) dumps ++ tail).map Prod.fst
      <+: itinerary cursor settings endpoint := by
    obtain ⟨rest, hrest⟩ := hcalls
    rw [List.map_append, Log.calls_survey settings endpoint hlen, itinerary, hr]
    refine ⟨rest ++ (later.map Record.pc).flatMap (fun pc ↦ [.breakAt pc, .resume, .dump]) ++
      if cursor.failure? = none then [.disconnect] else [], ?_⟩
    simp [← hrest]
  have hnot : .disconnect ∉
      (Log.survey settings endpoint (earlier.map Record.pc) dumps ++ tail).map Prod.fst := by
    rw [List.map_append, List.mem_append, not_or]
    refine ⟨disconnect_notMem_survey hlen, fun h ↦ ?_⟩
    simpa using hcalls.subset h
  refine ⟨nothing_iff_of_ne_nil ?_ (by simp [hr]), horder, only_after_success_of_tail ht,
    agree_of_tail (hr ▸ List.prefix_append ..) ha ht, ?_, disconnect_once_of_prefix horder⟩
  · simp [survey_ne_nil]
  · rw [Log.dumps_append, Log.dumps_survey settings endpoint hlen]
    exact ⟨fun h ↦ absurd h hnot, fun h ↦ absurd h.2.1 hn⟩

theorem conforms_of_end (hh : cursor.records = [] → cursor.failure? = none)
    (ha : Agree cursor.records dumps) (hd : tail.dumps = [])
    (hcalls : tail.map Prod.fst = if cursor.failure? = none then [.disconnect] else []) :
    Conforms cursor settings endpoint
      (Log.survey settings endpoint (cursor.records.map Record.pc) dumps ++ tail) := by
  have hlen : dumps.length = (cursor.records.map Record.pc).length := by simp [ha.length_eq]
  have ht : ∀ entry ∈ tail.dropLast, entry.2 = .done := by
    have hone : tail.length ≤ 1 := by
      rw [← List.length_map, hcalls]
      split <;> simp
    have hnil : tail.dropLast = [] := List.eq_nil_of_length_eq_zero (by simp; omega)
    simp [hnil]
  have horder : (Log.survey settings endpoint (cursor.records.map Record.pc) dumps ++ tail).map
      Prod.fst <+: itinerary cursor settings endpoint := by
    rw [List.map_append, Log.calls_survey settings endpoint hlen, hcalls]
    exact List.prefix_rfl
  refine ⟨nothing_iff_of_ne_nil ?_ hh, horder, only_after_success_of_tail ht,
    agree_of_tail List.prefix_rfl ha ht, ?_, disconnect_once_of_prefix horder⟩
  · simp [survey_ne_nil]
  · rw [Log.dumps_append, Log.dumps_survey settings endpoint hlen, hd, List.append_nil,
      List.map_append, List.mem_append, hcalls]
    constructor
    · rintro (h | h)
      · exact absurd h (disconnect_notMem_survey hlen)
      · refine ⟨by simp [Log.survey, Log.opening], ha, ?_⟩
        by_contra hf
        simp [hf] at h
    · rintro ⟨-, -, hf⟩
      simp [hf]

end

section

variable {σ : Type} [Debugger σ] {cursor : Cursor} {settings : Settings} {endpoint : String}
  {start s s' : Logged σ} {earlier later : List Record} {record : Record} {tail : Log}

theorem conforms_of_matched_round (hr : cursor.records = earlier ++ record :: later)
    (hm : Matched settings endpoint start earlier s) (hlog : s'.log = s.log ++ tail)
    (hcalls : tail.map Prod.fst <+: [.breakAt record.pc, .resume, .dump])
    (ht : ∀ entry ∈ tail.dropLast, entry.2 = .done)
    (hn : ∀ dumps, Agree earlier dumps → ¬ Agree cursor.records (dumps ++ tail.dumps)) :
    ∃ log, s'.log = start.log ++ log ∧ Conforms cursor settings endpoint log := by
  obtain ⟨dumps, hs, ha⟩ := hm
  rw [Logged.log_of_survey hs, List.append_assoc] at hlog
  exact ⟨_, hlog, conforms_of_round hr ha hcalls ht (hn dumps ha)⟩

theorem conforms_of_matched_end (hh : cursor.records = [] → cursor.failure? = none)
    (hm : Matched settings endpoint start cursor.records s) (hlog : s'.log = s.log ++ tail)
    (hd : tail.dumps = [])
    (hcalls : tail.map Prod.fst = if cursor.failure? = none then [.disconnect] else []) :
    ∃ log, s'.log = start.log ++ log ∧ Conforms cursor settings endpoint log := by
  obtain ⟨dumps, hs, ha⟩ := hm
  rw [Logged.log_of_survey hs, List.append_assoc] at hlog
  exact ⟨_, hlog, conforms_of_end hh ha hd hcalls⟩

theorem not_agree_of_no_dump (hr : cursor.records = earlier ++ record :: later)
    (ht : tail.dumps = []) {dumps : List String} (ha : Agree earlier dumps) :
    ¬ Agree cursor.records (dumps ++ tail.dumps) := by
  intro h
  have hlen := h.length_eq
  have hlen' := ha.length_eq
  rw [hr, ht, List.append_nil, List.length_append, List.length_cons] at hlen
  omega

theorem not_agree_of_bad_dump (hr : cursor.records = earlier ++ record :: later) {dump : String}
    (hl : Registers.mergeDump dump (.ofRecords earlier) ≠
      (.ok (), .ofRecords (earlier ++ [record])))
    {dumps : List String} (ha : Agree earlier dumps) : ¬ Agree cursor.records (dumps ++ [dump]) := by
  intro h
  have hlen := h.length_eq
  have hlen' := ha.length_eq
  simp only [hr, List.length_append, List.length_cons, List.length_nil] at hlen
  obtain rfl : later = [] := List.eq_nil_of_length_eq_zero (by omega)
  rw [hr] at h
  exact hl (Agree.concat_iff.mp h).2

theorem conforms_of_ends {result : Except CheckError Outcome} {final : Checker (Logged σ)}
    (h : Ends cursor settings endpoint start result final) :
    ∃ log, final.session.log = start.log ++ log ∧ Conforms cursor settings endpoint log := by
  cases h with
  | badHead hr hf => exact ⟨[], by simp, conforms_nil hr hf⟩
  | notEngaged hh he =>
    obtain hlog | hlog := Logged.log_of_engage_error he
    · exact ⟨_, hlog, conforms_of_engage hh (.inl rfl)⟩
    · exact ⟨_, hlog, conforms_of_engage hh (.inr rfl)⟩
  | notReached hr hm he =>
    obtain hlog | hlog := Logged.log_of_reach_error he
    · exact conforms_of_matched_round hr hm hlog (by simp) (by simp)
        fun dumps ↦ not_agree_of_no_dump hr rfl
    · exact conforms_of_matched_round hr hm hlog (by simp) (by simp)
        fun dumps ↦ not_agree_of_no_dump hr rfl
  | notDumped hr hm hs he =>
    have hlog := Logged.log_of_perform_error he
    rw [Logged.log_of_reach hs, List.append_assoc] at hlog
    exact conforms_of_matched_round hr hm hlog (by simp) (by simp)
      fun dumps ↦ not_agree_of_no_dump hr rfl
  | badDump hr hm hs he =>
    have hlog := Logged.log_of_sample hs
    exact conforms_of_matched_round hr hm hlog (by simp [Log.round]) (by simp [Log.round])
      fun dumps ↦ not_agree_of_bad_dump hr fun h ↦ by simp [h] at he
  | mismatch hr hm hs hl hn hf =>
    have hlog := Logged.log_of_sample hs
    exact conforms_of_matched_round hr hm hlog (by simp [Log.round]) (by simp [Log.round])
      fun dumps ↦ not_agree_of_bad_dump hr (by simpa [hl] using hn)
  | badTrace hr hf hm =>
    exact conforms_of_matched_end (fun h ↦ absurd h hr) hm (List.append_nil _).symm rfl (by simp [hf])
  | notReleased hf hm he =>
    have hlog := Logged.log_of_perform_error he
    exact conforms_of_matched_end (fun _ ↦ hf) hm hlog rfl (by simp [hf])
  | passed hf hm hd =>
    have hlog := Logged.log_of_perform_ok hd
    exact conforms_of_matched_end (fun _ ↦ hf) hm hlog rfl (by simp [hf])

end

theorem steps_ofRecords (records : List Record) :
    (Notice.ofRecords records).filterMap Notice.step? =
      records.mapIdx fun i record ↦ (i + 1, record.pc) := by
  induction records using List.reverseRecOn with
  | nil => rfl
  | append_singleton records record ih =>
    rw [Notice.ofRecords_concat, List.filterMap_append, ih, List.mapIdx_concat]
    rfl

theorem steps_of_ends {σ : Type} [Debugger σ] {cursor : Cursor} {settings : Settings}
    {endpoint : String} {start : σ} {result : Except CheckError Outcome} {final : Checker σ}
    (h : Ends cursor settings endpoint start result final) :
    final.progress.compared ≤ cursor.records.length ∧
      final.notices.filterMap Notice.step? =
        (cursor.records.take final.progress.compared).mapIdx fun i record ↦ (i + 1, record.pc) := by
  cases h with
  | badHead hr hf => simp
  | notEngaged hh he => simp
  | notReached hr hm he => simp [hr, steps_ofRecords]
  | notDumped hr hm hs he => simp [hr, steps_ofRecords, Notice.step?]
  | badDump hr hm hs he => simp [hr, steps_ofRecords, Notice.step?]
  | mismatch hr hm hs hl hn hf =>
    simp [hr, steps_ofRecords, Notice.step?, List.take_append, List.take_of_length_le]
  | badTrace hr hf hm => simp [Progress.matched, steps_ofRecords]
  | notReleased hf hm he => simp [Progress.matched, steps_ofRecords]
  | passed hf hm hd => simp [Progress.matched, steps_ofRecords, Notice.step?]

/-- What a run over an opened trace does to its debugger and tells its observers. It is the run
without a log that is so described. -/
structure Conducts {σ : Type} [Debugger σ] (cursor : Cursor) (settings : Settings)
    (endpoint : String) (before : Checker (Logged σ))
    (run : Except CheckError Outcome × Checker (Logged σ)) : Prop where
  unlogged : Checker.checkTrace cursor endpoint settings before.forget = (run.1, run.2.forget)
  calls : ∃ log, run.2.session.log = before.session.log ++ log ∧
    Conforms cursor settings endpoint log
  compared_le : run.2.progress.compared ≤ cursor.records.length
  steps : run.2.notices.filterMap Notice.step? = before.notices.filterMap Notice.step? ++
    (cursor.records.take run.2.progress.compared).mapIdx fun i record ↦ (i + 1, record.pc)

theorem conducts_of_checkTrace {σ : Type} [Debugger σ] (cursor : Cursor) (settings : Settings)
    (endpoint : String) (checker : Checker (Logged σ)) :
    Conducts cursor settings endpoint checker
      (Checker.checkTrace cursor endpoint settings checker) := by
  rcases hrun : Checker.checkTrace cursor endpoint settings checker with ⟨result, after⟩
  obtain ⟨final, h, rfl⟩ := Checker.ends_of_checkTrace hrun
  obtain ⟨log, hlog, hc⟩ := conforms_of_ends h
  obtain ⟨hle, hsteps⟩ := steps_of_ends h
  refine ⟨Checker.checkTrace_forget hrun, ⟨log, hlog, hc⟩, hle, ?_⟩
  simp [List.filterMap_append, hsteps]

/-- A run over a trace keeps to the call protocol, and so does a check of a file; one that cannot be
opened leaves the debugger and the observers alone. -/
theorem calls_of_run {σ : Type} [Debugger σ] (settings : Settings) (endpoint : String)
    (checker : Checker (Logged σ)) :
    (∀ cursor, Conducts cursor settings endpoint checker
      (Checker.checkTrace cursor endpoint settings checker)) ∧
    ∀ storage path window,
      let run := Checker.checkFile storage path window endpoint settings checker
      match Storage.openCursor storage path window with
      | .ok cursor => Conducts cursor settings endpoint checker run
      | .error error => run.1 = .error (.trace error) ∧ run.2.session = checker.session ∧
          run.2.notices = checker.notices := by
  refine ⟨fun cursor ↦ conducts_of_checkTrace cursor settings endpoint checker, ?_⟩
  intro storage path window run
  cases h : Storage.openCursor storage path window with
  | ok cursor =>
    have hrun : run = Checker.checkTrace cursor endpoint settings checker := by
      simp only [run, Checker.checkFile, h]
    rw [hrun]
    exact conducts_of_checkTrace cursor settings endpoint checker
  | error error =>
    simp only [run, Checker.checkFile, h]
    exact ⟨rfl, rfl, rfl⟩

end Lockstep
