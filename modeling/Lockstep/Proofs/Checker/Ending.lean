import Lockstep.Proofs.Checker.Survey
import Lockstep.Proofs.Trace.Emission
import Mathlib.Data.List.Induction

namespace Lockstep

variable {σ : Type}

def Notice.ofRecords (records : List Record) : List Notice :=
  (records.mapIdx fun i record ↦ [.resumed, .compared, .stepped (i + 1) record.pc]).flatten

theorem Notice.ofRecords_concat (records : List Record) (record : Record) :
    ofRecords (records ++ [record]) =
      ofRecords records ++ [.resumed, .compared, .stepped (records.length + 1) record.pc] := by
  simp [ofRecords]

def Progress.matched (records : List Record) : Progress :=
  ⟨.ofRecords records, .ofRecords records, records.length, .running⟩

section

variable [Debugger σ]

/-- The debugger delivers dumps for some records, and all of them agree. -/
def Matched (settings : Settings) (endpoint : String) (start : σ) (records : List Record)
    (finish : σ) : Prop :=
  ∃ dumps, Debugger.survey settings endpoint (records.map Record.pc) start = (.ok dumps, finish) ∧
    Agree records dumps

/-- The result of a run, and the checker that it leaves, with the notices of this run only. -/
inductive Ends (cursor : Cursor) (settings : Settings) (endpoint : String) (start : σ) :
    Except CheckError Outcome → Checker σ → Prop
  | badHead {error : TraceError} (hr : cursor.records = [])
      (hf : cursor.failure? = some error) :
      Ends cursor settings endpoint start (.error (.trace error)) ⟨start, { phase := .failed }, []⟩
  | notEngaged {error : SessionError} {s : σ}
      (hh : cursor.records = [] → cursor.failure? = none)
      (he : Debugger.engage settings endpoint start = (.error error, s)) :
      Ends cursor settings endpoint start (.error (.session error)) ⟨s, { phase := .failed }, []⟩
  | notReached {earlier later : List Record} {record : Record} {s s' : σ} {error : SessionError}
      (hr : cursor.records = earlier ++ record :: later)
      (hm : Matched settings endpoint start earlier s)
      (he : Debugger.reach record.pc s = (.error error, s')) :
      Ends cursor settings endpoint start (.error (.session error))
        ⟨s', ⟨.ofRecords (earlier ++ [record]), .ofRecords earlier, earlier.length, .failed⟩,
          Notice.ofRecords earlier⟩
  | notDumped {earlier later : List Record} {record : Record} {s s₁ s' : σ} {error : SessionError}
      (hr : cursor.records = earlier ++ record :: later)
      (hm : Matched settings endpoint start earlier s)
      (hs : Debugger.reach record.pc s = (.ok (), s₁))
      (he : Debugger.dump s₁ = (.error error, s')) :
      Ends cursor settings endpoint start (.error (.session error))
        ⟨s', ⟨.ofRecords (earlier ++ [record]), .ofRecords earlier, earlier.length, .failed⟩,
          Notice.ofRecords earlier ++ [.resumed]⟩
  | badDump {earlier later : List Record} {record : Record} {s s' : σ} {dump : String}
      {error : FieldError} (hr : cursor.records = earlier ++ record :: later)
      (hm : Matched settings endpoint start earlier s)
      (hs : Debugger.sample record.pc s = (.ok dump, s'))
      (he : (Registers.mergeDump dump (.ofRecords earlier)).1 = .error error) :
      Ends cursor settings endpoint start (.error (.registers error))
        ⟨s', ⟨.ofRecords (earlier ++ [record]), .ofRecords earlier, earlier.length, .failed⟩,
          Notice.ofRecords earlier ++ [.resumed]⟩
  | mismatch {earlier later : List Record} {record : Record} {s s' : σ} {dump : String}
      {live : Registers} {found : Mismatch} (hr : cursor.records = earlier ++ record :: later)
      (hm : Matched settings endpoint start earlier s)
      (hs : Debugger.sample record.pc s = (.ok dump, s'))
      (hl : Registers.mergeDump dump (.ofRecords earlier) = (.ok (), live))
      (hn : live ≠ .ofRecords (earlier ++ [record]))
      (hf : found = ⟨earlier.length + 1, record.line, live, .ofRecords (earlier ++ [record])⟩) :
      Ends cursor settings endpoint start (.ok (.failed found))
        ⟨s', ⟨.ofRecords (earlier ++ [record]), live, earlier.length + 1, .failed⟩,
          Notice.ofRecords (earlier ++ [record]) ++ [.concluded (.failed found)]⟩
  | badTrace {error : TraceError} {s : σ} (hr : cursor.records ≠ [])
      (hf : cursor.failure? = some error)
      (hm : Matched settings endpoint start cursor.records s) :
      Ends cursor settings endpoint start (.error (.trace error))
        ⟨s, { Progress.matched cursor.records with phase := .failed },
          Notice.ofRecords cursor.records⟩
  | notReleased {error : SessionError} {s s' : σ} (hf : cursor.failure? = none)
      (hm : Matched settings endpoint start cursor.records s)
      (he : Debugger.disconnect s = (.error error, s')) :
      Ends cursor settings endpoint start (.error (.session error))
        ⟨s', { Progress.matched cursor.records with phase := .failed },
          Notice.ofRecords cursor.records⟩
  | passed {s s' : σ} (hf : cursor.failure? = none)
      (hm : Matched settings endpoint start cursor.records s)
      (hd : Debugger.disconnect s = (.ok (), s')) :
      Ends cursor settings endpoint start (.ok (.passed cursor.records.length))
        ⟨s', { Progress.matched cursor.records with phase := .passed },
          Notice.ofRecords cursor.records ++ [.concluded (.passed cursor.records.length)]⟩

variable {settings : Settings} {endpoint : String} {start s s' : σ} {records : List Record}
  {record : Record}

theorem matched_nil_iff :
    Matched settings endpoint start [] s ↔
      Debugger.engage settings endpoint start = (.ok (), s) := by
  constructor
  · rintro ⟨dumps, hs, ha⟩
    exact (Debugger.survey_nil_iff.mp hs).1
  · intro h
    exact ⟨[], Debugger.survey_nil_iff.mpr ⟨h, rfl⟩, .nil⟩

theorem matched_concat_iff :
    Matched settings endpoint start (records ++ [record]) s' ↔
      ∃ s dump, Matched settings endpoint start records s ∧
        Debugger.sample record.pc s = (.ok dump, s') ∧
        Registers.mergeDump dump (.ofRecords records) =
          (.ok (), .ofRecords (records ++ [record])) := by
  constructor
  · rintro ⟨dumps', h, ha⟩
    rw [List.map_append, List.map_singleton] at h
    obtain ⟨dumps, dump, s, hs, hd, rfl⟩ := Debugger.survey_concat_iff.mp h
    obtain ⟨ha, hl⟩ := Agree.concat_iff.mp ha
    exact ⟨s, dump, ⟨dumps, hs, ha⟩, hd, hl⟩
  · rintro ⟨s, dump, ⟨dumps, hs, ha⟩, hd, hl⟩
    refine ⟨dumps ++ [dump], ?_, Agree.concat_iff.mpr ⟨ha, hl⟩⟩
    rw [List.map_append, List.map_singleton]
    exact Debugger.survey_concat_iff.mpr ⟨dumps, dump, s, hs, hd, rfl⟩

theorem progress_of_passed {cursor : Cursor} {n : Nat} {final : Checker σ}
    (h : Ends cursor settings endpoint start (.ok (.passed n)) final) :
    cursor.failure? = none ∧ n = cursor.records.length ∧
      final.progress = { Progress.matched cursor.records with phase := .passed } := by
  cases h with
  | passed hf hm hd => exact ⟨hf, rfl, rfl⟩

namespace Checker

/-- What is left of a run once the debugger is attached. -/
def proceed (items : List (Except TraceError Record)) :
    Attempt CheckError (Checker σ) Outcome := do
  match ← checkRecords items with
  | some mismatch => pure (.failed mismatch)
  | none => do
    ask Debugger.disconnect
    setPhase .passed
    return .passed (← get).progress.compared

theorem attachAndCheck_eq (items : List (Except TraceError Record)) :
    (attachAndCheck items endpoint settings : Attempt CheckError (Checker σ) Outcome) = (do
      ask (Debugger.engage settings endpoint)
      setPhase .running
      proceed items) := by
  simp only [attachAndCheck, Debugger.engage, ask_bind, bind_assoc]
  rfl

variable {checker after : Checker σ} {items : List (Except TraceError Record)}

theorem proceed_of_error (error : TraceError) :
    proceed (.error error :: items) checker = (.error (.trace error), checker) := rfl

theorem proceed_nil_of_error {error : SessionError}
    (h : Debugger.disconnect checker.session = (.error error, s)) :
    proceed [] checker = (.error (.session error), { checker with session := s }) := by
  simp only [proceed, checkRecords, Attempt.bind_apply, Attempt.pure_apply, ask_apply, h]

theorem proceed_nil_of_ok (h : Debugger.disconnect checker.session = (.ok (), s)) :
    proceed [] checker = (.ok (.passed checker.progress.compared),
      { checker with session := s, progress := { checker.progress with phase := .passed } }) := by
  simp only [proceed, checkRecords, Attempt.bind_apply, Attempt.pure_apply, ask_apply, h]
  rfl

theorem proceed_cons_of_error {error : CheckError}
    (h : checkRecord record checker = (.error error, after)) :
    proceed (.ok record :: items) checker = (.error error, after) := by
  simp only [proceed, checkRecords, Attempt.bind_apply, h]

theorem proceed_cons_of_some {found : Mismatch}
    (h : checkRecord record checker = (.ok (some found), after)) :
    proceed (.ok record :: items) checker = (.ok (.failed found), after) := by
  simp only [proceed, checkRecords, Attempt.bind_apply, h]
  rfl

theorem proceed_cons_of_none (h : checkRecord record checker = (.ok none, after)) :
    proceed (.ok record :: items) checker = proceed items after := by
  simp only [proceed, checkRecords, Attempt.bind_apply, h]

theorem attachAndCheck_of_engage_error {error : SessionError}
    (h : Debugger.engage settings endpoint checker.session = (.error error, s)) :
    attachAndCheck items endpoint settings checker =
      (.error (.session error), { checker with session := s }) := by
  simp only [attachAndCheck_eq, Attempt.bind_apply, ask_apply, h]

theorem attachAndCheck_of_matched {notices : List Notice}
    (hm : Matched settings endpoint start records s) :
    attachAndCheck (records.map .ok ++ items) endpoint settings ⟨start, {}, notices⟩ =
      proceed items ⟨s, .matched records, notices ++ Notice.ofRecords records⟩ := by
  -- From the right: the last record is checked in the state that the earlier ones leave, and what
  -- follows it is one item longer for them.
  induction records using List.reverseRecOn generalizing s items with
  | nil =>
    have he := matched_nil_iff.mp hm
    simp only [attachAndCheck_eq, Attempt.bind_apply, ask_apply, he]
    simp [setPhase_apply, Notice.ofRecords]
    rfl
  | append_singleton records record ih =>
    obtain ⟨s₁, dump, hm, hs, hl⟩ := matched_concat_iff.mp hm
    rw [List.map_append, List.append_assoc, ih hm]
    rw [Registers.ofRecords_concat] at hl
    refine (proceed_cons_of_none (checkRecord_of_match hs hl)).trans ?_
    simp [Progress.matched, Registers.ofRecords_concat, Notice.ofRecords_concat]

variable {cursor : Cursor}

theorem checkItems_of_attach (h : cursor.records = [] → cursor.failure? = none) :
    (checkItems cursor.items endpoint settings : Attempt CheckError (Checker σ) Outcome) =
      attachAndCheck cursor.items endpoint settings := by
  rw [cursor.items_eq_append]
  cases hr : cursor.records with
  | nil => rw [h hr]; rfl
  | cons record records => rfl

theorem checkTrace_of_ok {outcome : Outcome} {final : Checker σ}
    (h : checkItems cursor.items endpoint settings ⟨checker.session, {}, checker.notices⟩ =
      (.ok outcome, after))
    (hf : final = { after with notices := after.notices ++ [.concluded outcome] }) :
    checkTrace cursor endpoint settings checker = (.ok outcome, final) := by
  simp only [checkTrace, conclude, Attempt.bind_apply, update_apply, h, hf]

theorem checkTrace_of_error {error : CheckError} {final : Checker σ}
    (h : checkItems cursor.items endpoint settings ⟨checker.session, {}, checker.notices⟩ =
      (.error error, after))
    (hf : final = { after with progress := { after.progress with phase := .failed } }) :
    checkTrace cursor endpoint settings checker = (.error error, final) := by
  simp only [checkTrace, conclude, Attempt.bind_apply, update_apply, h, hf]

theorem checkItems_of_matched (hc : cursor.records = [] → cursor.failure? = none)
    (hi : cursor.items = records.map .ok ++ items) {notices : List Notice}
    (hm : Matched settings endpoint start records s) :
    checkItems cursor.items endpoint settings ⟨start, {}, notices⟩ =
      proceed items ⟨s, .matched records, notices ++ Notice.ofRecords records⟩ := by
  rw [checkItems_of_attach hc, hi, attachAndCheck_of_matched hm]

theorem items_of_records {earlier later : List Record}
    (h : cursor.records = earlier ++ record :: later) :
    ∃ items, cursor.items = earlier.map .ok ++ .ok record :: items := by
  rw [cursor.items_eq_append, h]
  simp

theorem checkTrace_of_ends {result : Except CheckError Outcome} {final : Checker σ}
    (h : Ends cursor settings endpoint checker.session result final) :
    checkTrace cursor endpoint settings checker =
      (result, { final with notices := checker.notices ++ final.notices }) := by
  cases h with
  | @badHead error hr hf =>
    have hstage : checkItems cursor.items endpoint settings ⟨checker.session, {}, checker.notices⟩ =
        (.error (.trace error), (⟨checker.session, {}, checker.notices⟩ : Checker σ)) := by
      rw [cursor.items_eq_append, hr, hf]
      rfl
    exact checkTrace_of_error hstage (by simp)
  | notEngaged hh he =>
    refine checkTrace_of_error ((congrFun (checkItems_of_attach hh) _).trans
      (attachAndCheck_of_engage_error he)) ?_
    simp
  | notReached hr hm he =>
    obtain ⟨items, hi⟩ := items_of_records hr
    refine checkTrace_of_error ((checkItems_of_matched (by simp [hr]) hi hm).trans
      (proceed_cons_of_error (checkRecord_of_reach_error he))) ?_
    simp [merge, Progress.matched, Registers.ofRecords_concat]
  | notDumped hr hm hs he =>
    obtain ⟨items, hi⟩ := items_of_records hr
    refine checkTrace_of_error ((checkItems_of_matched (by simp [hr]) hi hm).trans
      (proceed_cons_of_error (checkRecord_of_dump_error hs he))) ?_
    simp [merge, Progress.matched, Registers.ofRecords_concat]
  | badDump hr hm hs he =>
    obtain ⟨items, hi⟩ := items_of_records hr
    refine checkTrace_of_error ((checkItems_of_matched (by simp [hr]) hi hm).trans
      (proceed_cons_of_error (checkRecord_of_bad_dump hs he))) ?_
    simp [merge, Progress.matched, Registers.ofRecords_concat]
  | mismatch hr hm hs hl hn hf =>
    obtain ⟨items, hi⟩ := items_of_records hr
    subst hf
    rw [Registers.ofRecords_concat] at hn ⊢
    refine checkTrace_of_ok ((checkItems_of_matched (by simp [hr]) hi hm).trans
      (proceed_cons_of_some (checkRecord_of_mismatch hs hl hn))) ?_
    simp [Progress.matched, Notice.ofRecords_concat]
  | badTrace hr hf hm =>
    have hi := cursor.items_eq_append
    rw [hf] at hi
    refine checkTrace_of_error ((checkItems_of_matched (fun h ↦ absurd h hr) hi hm).trans
      (proceed_of_error _)) ?_
    simp
  | notReleased hf hm he =>
    have hi := cursor.items_eq_append
    rw [hf] at hi
    refine checkTrace_of_error ((checkItems_of_matched (fun _ ↦ hf) hi hm).trans
      (proceed_nil_of_error he)) ?_
    simp
  | passed hf hm hd =>
    have hi := cursor.items_eq_append
    rw [hf] at hi
    refine checkTrace_of_ok ((checkItems_of_matched (fun _ ↦ hf) hi hm).trans
      (proceed_nil_of_ok hd)) ?_
    simp [Progress.matched]

theorem exists_ends_of_matched {later : List Record} (hr : cursor.records = records ++ later)
    (hc : cursor.records = [] → cursor.failure? = none)
    (hm : Matched settings endpoint start records s) :
    ∃ result, ∃ final : Checker σ, Ends cursor settings endpoint start result final := by
  -- Agreement on the records so far is what a turn of the loop keeps, if it does not end the run.
  induction later generalizing records s with
  | nil =>
    rw [List.append_nil] at hr
    subst hr
    cases hf : cursor.failure? with
    | some error =>
      have hne : cursor.records ≠ [] := fun h ↦ by simp [hc h] at hf
      exact ⟨_, _, .badTrace hne hf hm⟩
    | none =>
      rcases hd : Debugger.disconnect s with ⟨error | ⟨⟩, s'⟩
      · exact ⟨_, _, .notReleased hf hm hd⟩
      · exact ⟨_, _, .passed hf hm hd⟩
  | cons record later ih =>
    rcases hs : Debugger.reach record.pc s with ⟨error | ⟨⟩, s₁⟩
    · exact ⟨_, _, .notReached hr hm hs⟩
    rcases hd : Debugger.dump s₁ with ⟨error | dump, s₂⟩
    · exact ⟨_, _, .notDumped hr hm hs hd⟩
    have hsample : Debugger.sample record.pc s = (.ok dump, s₂) :=
      Attempt.bind_eq_ok_iff.mpr ⟨(), s₁, hs, hd⟩
    rcases hl : Registers.mergeDump dump (.ofRecords records) with ⟨error | ⟨⟩, live⟩
    · exact ⟨_, _, .badDump hr hm hsample (congrArg Prod.fst hl)⟩
    by_cases he : live = .ofRecords (records ++ [record])
    · subst he
      exact ih (by simp [hr]) (matched_concat_iff.mpr ⟨s, dump, hm, hsample, hl⟩)
    · exact ⟨_, _, .mismatch hr hm hsample hl he rfl⟩

theorem exists_ends (cursor : Cursor) (settings : Settings) (endpoint : String) (start : σ) :
    ∃ result, ∃ final : Checker σ, Ends cursor settings endpoint start result final := by
  by_cases hc : cursor.records = [] → cursor.failure? = none
  · rcases he : Debugger.engage settings endpoint start with ⟨error | ⟨⟩, s⟩
    · exact ⟨_, _, .notEngaged hc he⟩
    · exact exists_ends_of_matched rfl hc (matched_nil_iff.mpr he)
  · obtain ⟨hr, hf⟩ := Classical.not_imp.mp hc
    obtain ⟨error, hf⟩ := Option.ne_none_iff_exists'.mp hf
    exact ⟨_, _, .badHead hr hf⟩

/-- A run ends in one of these ways, and in no other. -/
theorem ends_of_checkTrace {result : Except CheckError Outcome}
    (h : checkTrace cursor endpoint settings checker = (result, after)) :
    ∃ final, Ends cursor settings endpoint checker.session result final ∧
      after = { final with notices := checker.notices ++ final.notices } := by
  obtain ⟨result', final, hends⟩ := exists_ends cursor settings endpoint checker.session
  obtain ⟨rfl, rfl⟩ := Attempt.pair_eq_iff.mp ((checkTrace_of_ends hends).symm.trans h)
  exact ⟨final, hends, rfl⟩

variable {storage : Storage} {path : String} {window : Window}

theorem checkFile_of_opened (checker : Checker σ)
    (ho : storage.openCursor path window = .ok cursor) :
    checkFile storage path window endpoint settings checker =
      checkTrace cursor endpoint settings checker := by
  simp only [checkFile, ho]

theorem checkFile_of_unopened (checker : Checker σ) {error : TraceError}
    (ho : storage.openCursor path window = .error error) :
    checkFile storage path window endpoint settings checker = (.error (.trace error),
      { checker with progress := { checker.progress with phase := .failed } }) := by
  simp only [checkFile, ho, Attempt.bind_apply, setPhase_apply, Attempt.throw_apply]

theorem checkFile_of_ends (checker : Checker σ) {result : Except CheckError Outcome}
    {final : Checker σ} (ho : storage.openCursor path window = .ok cursor)
    (h : Ends cursor settings endpoint checker.session result final) :
    checkFile storage path window endpoint settings checker =
      (result, { final with notices := checker.notices ++ final.notices }) :=
  (checkFile_of_opened checker ho).trans (checkTrace_of_ends h)

theorem ends_of_checkFile {outcome : Outcome}
    (h : checkFile storage path window endpoint settings checker = (.ok outcome, after)) :
    ∃ cursor, storage.openCursor path window = .ok cursor ∧
      ∃ final, Ends cursor settings endpoint checker.session (.ok outcome) final ∧
        after = { final with notices := checker.notices ++ final.notices } := by
  cases ho : storage.openCursor path window with
  | error error =>
    have hresult := (checkFile_of_unopened checker ho).symm.trans h
    simp at hresult
  | ok cursor =>
    have hrun := (checkFile_of_opened checker ho).symm.trans h
    exact ⟨cursor, rfl, ends_of_checkTrace hrun⟩

end Checker

end

end Lockstep
