import Lockstep.Proofs.Checker.Calls
import Lockstep.Proofs.Checker.Tasks
import Lockstep.Proofs.Telemetry.Recorder

namespace Lockstep

namespace Reply

def isConcluded : Reply → Bool
  | checked (.ok _) => true
  | _ => false

/-- Whether a whole check found a mismatch. That of a single comparison does not count. -/
def isFailed : Reply → Bool
  | checked (.ok (.failed _)) => true
  | _ => false

theorem isConcluded_iff {reply : Reply} :
    reply.isConcluded = true ↔ ∃ outcome, reply = checked (.ok outcome) := by
  constructor
  · intro h
    match reply with
    | checked (.ok outcome) => exact ⟨outcome, rfl⟩
  · rintro ⟨outcome, rfl⟩
    rfl

end Reply

namespace Log

def isRead : Call × Answer → Bool
  | (.dump, .text dump) => (Update.ofDump dump).toBool
  | _ => false

def isUnread : Call × Answer → Bool
  | (.dump, .text dump) => !(Update.ofDump dump).toBool
  | (.dump, .refused _) => true
  | _ => false

end Log

/-- Notices of as many comparisons, steps, resumptions and outcomes as are in a log and in replies. -/
structure Accounts (log : Log) (replies : List Reply) (notices : List Notice) : Prop where
  comparisons : notices.countP Notice.isComparison = log.countP Log.isRead
  steps : (notices.filterMap Notice.step?).length = log.countP Log.isRead
  resumes : notices.countP Notice.isResume = log.count (.resume, .done)
  dumps : log.count (.resume, .done) = log.countP Log.isRead + log.countP Log.isUnread
  mismatches : notices.countP Notice.isMismatch = replies.countP Reply.isFailed
  runs : notices.countP Notice.isConclusion = replies.countP Reply.isConcluded

namespace Accounts

variable {log log' : Log} {replies replies' : List Reply} {notices notices' : List Notice}

theorem nil : Accounts [] [] [] := ⟨rfl, rfl, rfl, rfl, rfl, rfl⟩

theorem append (h : Accounts log replies notices) (h' : Accounts log' replies' notices') :
    Accounts (log ++ log') (replies ++ replies') (notices ++ notices') := by
  obtain ⟨hn, hs, hr, hd, hm, hc⟩ := h
  obtain ⟨hn', hs', hr', hd', hm', hc'⟩ := h'
  constructor <;>
    simp only [List.countP_append, List.count_append, List.filterMap_append, List.length_append] <;>
    omega

theorem countP_isRead_round (pc : Word) (dump : String) :
    (Log.round pc dump).countP Log.isRead = if (Update.ofDump dump).toBool then 1 else 0 := by
  cases h : (Update.ofDump dump).toBool <;> simp [Log.round, Log.isRead, h]

theorem read {dump : String} (h : (Update.ofDump dump).toBool = true) (step : Nat) (pc : Word) :
    Accounts (Log.round pc dump) [] [.resumed, .compared, .stepped step pc] where
  comparisons := by rw [countP_isRead_round, h]; rfl
  steps := by rw [countP_isRead_round, h]; rfl
  resumes := rfl
  dumps := by simp [Log.round, Log.isRead, Log.isUnread, h]
  mismatches := rfl
  runs := rfl

theorem unread {dump : String} (h : (Update.ofDump dump).toBool = false) (pc : Word) :
    Accounts (Log.round pc dump) [] [.resumed] where
  comparisons := by rw [countP_isRead_round, h]; rfl
  steps := by rw [countP_isRead_round, h]; rfl
  resumes := rfl
  dumps := by simp [Log.round, Log.isRead, Log.isUnread, h]
  mismatches := rfl
  runs := rfl

end Accounts

theorem Registers.toBool_mergeDump (dump : String) (registers : Registers) :
    (mergeDump dump registers).1.toBool = (Update.ofDump dump).toBool := by
  rw [mergeDump]
  cases Update.ofDump dump <;> rfl

variable {σ α β : Type}

/-- What was done between two states of a checker is accounted for. -/
def Advances (replies : List Reply) (before after : Checker (Logged σ)) : Prop :=
  ∃ log notices, after.session.log = before.session.log ++ log ∧
    after.notices = before.notices ++ notices ∧ Accounts log replies notices

namespace Advances

variable {a b c : Checker (Logged σ)} {replies replies' : List Reply}

theorem refl : Advances [] a a := ⟨[], [], by simp, by simp, .nil⟩

theorem of_eq (hs : b.session = a.session) (hn : b.notices = a.notices) : Advances [] a b :=
  ⟨[], [], by simp [hs], by simp [hn], .nil⟩

theorem trans (h : Advances replies a b) (h' : Advances replies' b c) :
    Advances (replies ++ replies') a c := by
  obtain ⟨log, notices, hl, hn, hacc⟩ := h
  obtain ⟨log', notices', hl', hn', hacc'⟩ := h'
  exact ⟨log ++ log', notices ++ notices', by rw [hl', hl, List.append_assoc],
    by rw [hn', hn, List.append_assoc], hacc.append hacc'⟩

end Advances

/-- A stage of a task: all that it does is accounted for, and it gives no reply yet. -/
def Advancing (x : Attempt CheckError (Checker (Logged σ)) α) : Prop :=
  ∀ checker, Advances [] checker (x checker).2

namespace Advancing

variable {x : Attempt CheckError (Checker (Logged σ)) α}

theorem bind {f : α → Attempt CheckError (Checker (Logged σ)) β} (hx : Advancing x)
    (hf : ∀ a, Advancing (f a)) : Advancing (x >>= f) := by
  intro checker
  have h := hx checker
  rw [Attempt.bind_apply]
  rcases hxc : x checker with ⟨error | a, next⟩
  · rw [hxc] at h
    exact h
  · rw [hxc] at h
    exact h.trans (hf a next)

theorem pure (a : α) : Advancing (pure a : Attempt CheckError (Checker (Logged σ)) α) :=
  fun _ ↦ .refl

theorem throw (error : CheckError) :
    Advancing (throw error : Attempt CheckError (Checker (Logged σ)) α) :=
  fun _ ↦ .refl

theorem get : Advancing (get : Attempt CheckError (Checker (Logged σ)) (Checker (Logged σ))) :=
  fun _ ↦ .refl

theorem update (change : Progress → Progress) :
    Advancing (Checker.update change : Attempt CheckError (Checker (Logged σ)) Unit) :=
  fun _ ↦ .of_eq rfl rfl

theorem ask {call : Call} {answer : α → Answer} {action : Attempt SessionError σ α}
    (h : ∀ answer, Accounts [(call, answer)] [] []) :
    Advancing (Checker.ask (Logged.perform call answer action)) := by
  intro checker
  rw [Checker.ask_apply]
  rcases hp : Logged.perform call answer action checker.session with ⟨error | a, next⟩
  · exact ⟨_, [], Logged.log_of_perform_error hp, (List.append_nil _).symm, h _⟩
  · exact ⟨_, [], Logged.log_of_perform_ok hp, (List.append_nil _).symm, h _⟩

variable [Debugger σ]

theorem checkRecord (record : Record) :
    Advancing (Checker.checkRecord record :
      Attempt CheckError (Checker (Logged σ)) (Option Mismatch)) := by
  intro checker
  rcases hrun : Checker.checkRecord record checker with ⟨result, after⟩
  cases Checker.compares_of_checkRecord hrun with
  | notReached h =>
    rcases Logged.log_of_reach_error h with hlog | hlog
    · exact ⟨_, [], hlog, (List.append_nil _).symm, rfl, rfl, rfl, rfl, rfl, rfl⟩
    · exact ⟨_, [], hlog, (List.append_nil _).symm, rfl, rfl, rfl, rfl, rfl, rfl⟩
  | notDumped h hd =>
    have hlog := Logged.log_of_perform_error hd
    rw [Logged.log_of_reach h, List.append_assoc] at hlog
    exact ⟨_, _, hlog, rfl, rfl, rfl, rfl, rfl, rfl, rfl⟩
  | @badDump dump error s h hb =>
    have hr := Registers.toBool_mergeDump dump checker.progress.live
    rw [hb] at hr
    exact ⟨_, _, Logged.log_of_sample h, rfl, .unread hr.symm _⟩
  | @matched dump golden s h hg hl =>
    have hr := Registers.toBool_mergeDump dump checker.progress.live
    rw [hl] at hr
    exact ⟨_, _, Logged.log_of_sample h, rfl, .read hr.symm _ _⟩
  | @mismatched dump golden live s h hg hl hn =>
    have hr := Registers.toBool_mergeDump dump checker.progress.live
    rw [hl] at hr
    exact ⟨_, _, Logged.log_of_sample h, rfl, .read hr.symm _ _⟩

theorem checkRecords (items : List (Except TraceError Record)) :
    Advancing (Checker.checkRecords items :
      Attempt CheckError (Checker (Logged σ)) (Option Mismatch)) := by
  induction items with
  | nil => exact pure none
  | cons item items ih =>
    cases item with
    | error error => exact throw _
    | ok record =>
      refine (checkRecord record).bind fun found ↦ ?_
      cases found with
      | none => exact ih
      | some found => exact pure _

theorem attachAndCheck (items : List (Except TraceError Record)) (endpoint : String)
    (settings : Settings) :
    Advancing (Checker.attachAndCheck items endpoint settings :
      Attempt CheckError (Checker (Logged σ)) Outcome) := by
  refine (ask fun _ ↦ ⟨rfl, rfl, rfl, rfl, rfl, rfl⟩).bind fun _ ↦
    (ask fun _ ↦ ⟨rfl, rfl, rfl, rfl, rfl, rfl⟩).bind fun _ ↦ (update _).bind fun _ ↦
      (checkRecords items).bind fun found ↦ ?_
  cases found with
  | some found => exact pure _
  | none =>
    exact (ask fun _ ↦ ⟨rfl, rfl, rfl, rfl, rfl, rfl⟩).bind fun _ ↦ (update _).bind fun _ ↦
      get.bind fun _ ↦ pure _

theorem checkItems (items : List (Except TraceError Record)) (endpoint : String)
    (settings : Settings) :
    Advancing (Checker.checkItems items endpoint settings :
      Attempt CheckError (Checker (Logged σ)) Outcome) := by
  unfold Checker.checkItems
  split
  · exact throw _
  · exact attachAndCheck _ _ _

end Advancing

namespace Advances

variable {checker : Checker (Logged σ)}

theorem reply {reply : Reply} {after : Checker (Logged σ)} (h : Advances [] checker after)
    (hr : reply.isConcluded = false) : Advances [reply] checker after := by
  have hf : reply.isFailed = false := by
    match reply with
    | .checked (.error _) => rfl
    | .stepped _ => rfl
  refine h.trans
    ⟨[], [], (List.append_nil _).symm, (List.append_nil _).symm, rfl, rfl, rfl, rfl, ?_, ?_⟩
  · simp [hf]
  · simp [hr]

theorem conclude {stage : Attempt CheckError (Checker (Logged σ)) Outcome}
    (h : Advancing stage) (checker : Checker (Logged σ)) :
    Advances [.checked (Checker.conclude stage checker).1] checker
      (Checker.conclude stage checker).2 := by
  have hs := h checker
  unfold Checker.conclude
  rcases hx : stage checker with ⟨error | outcome, after⟩
  · rw [hx] at hs
    exact reply (hs.trans (of_eq rfl rfl)) rfl
  · rw [hx] at hs
    have hone : Accounts [] [.checked (.ok outcome)] [.concluded outcome] := by
      cases outcome <;> exact ⟨rfl, rfl, rfl, rfl, rfl, rfl⟩
    exact hs.trans ⟨[], [.concluded outcome], (List.append_nil _).symm, rfl, hone⟩

variable [Debugger σ]

theorem checkTrace (cursor : Cursor) (endpoint : String) (settings : Settings)
    (checker : Checker (Logged σ)) :
    Advances [.checked (Checker.checkTrace cursor endpoint settings checker).1] checker
      (Checker.checkTrace cursor endpoint settings checker).2 :=
  conclude ((Advancing.update _).bind fun _ ↦ .checkItems _ _ _) checker

theorem perform (task : Task) (checker : Checker (Logged σ)) :
    Advances [(task.perform checker).1] checker (task.perform checker).2 := by
  cases task with
  | run cursor endpoint settings => exact checkTrace cursor endpoint settings checker
  | check storage path window endpoint settings =>
    rcases ho : storage.openCursor path window with error | cursor
    · simp only [Task.perform, Checker.checkFile_of_unopened checker ho]
      exact reply (of_eq rfl rfl) rfl
    · simp only [Task.perform, Checker.checkFile_of_opened checker ho]
      exact checkTrace cursor endpoint settings checker
  | step record => exact reply (Advancing.checkRecord record checker) rfl

theorem performAll (tasks : List Task) (checker : Checker (Logged σ)) :
    Advances (Task.performAll tasks checker).1 checker (Task.performAll tasks checker).2 := by
  induction tasks generalizing checker with
  | nil => exact refl
  | cons task tasks ih => exact (perform task checker).trans (ih _)

end Advances

section

variable [Debugger σ]

namespace Checker

theorem checkRecord_forget (record : Record) (checker : Checker (Logged σ)) :
    checkRecord record checker.forget =
      ((checkRecord record checker).1, (checkRecord record checker).2.forget) := by
  rcases hrun : checkRecord record checker with ⟨result, after⟩
  cases compares_of_checkRecord hrun with
  | notReached h =>
    obtain ⟨s, hs, rfl⟩ := (Logged.alike_session.reach record.pc).apply rfl h
    exact checkRecord_of_reach_error hs
  | notDumped h hd =>
    obtain ⟨s, hs, rfl⟩ := (Logged.alike_session.reach record.pc).apply rfl h
    obtain ⟨s', hs', rfl⟩ := Logged.alike_session.dump.apply rfl hd
    exact checkRecord_of_dump_error hs hs'
  | badDump h hb =>
    obtain ⟨s, hs, rfl⟩ := (Logged.alike_session.sample record.pc).apply rfl h
    exact checkRecord_of_bad_dump hs hb
  | matched h hg hl =>
    obtain ⟨s, hs, rfl⟩ := (Logged.alike_session.sample record.pc).apply rfl h
    subst hg
    exact checkRecord_of_match hs hl
  | mismatched h hg hl hn =>
    obtain ⟨s, hs, rfl⟩ := (Logged.alike_session.sample record.pc).apply rfl h
    subst hg
    exact checkRecord_of_mismatch hs hl hn

end Checker

namespace Task

theorem perform_forget (task : Task) (checker : Checker (Logged σ)) :
    task.perform checker.forget = ((task.perform checker).1, (task.perform checker).2.forget) := by
  cases task with
  | run cursor endpoint settings =>
    rcases hrun : Checker.checkTrace cursor endpoint settings checker with ⟨result, after⟩
    simp only [perform, hrun, Checker.checkTrace_forget hrun]
  | check storage path window endpoint settings =>
    rcases ho : storage.openCursor path window with error | cursor
    · simp only [perform, Checker.checkFile_of_unopened _ ho]
      rfl
    · rcases hrun : Checker.checkTrace cursor endpoint settings checker with ⟨result, after⟩
      simp only [perform, Checker.checkFile_of_opened _ ho, hrun, Checker.checkTrace_forget hrun]
  | step record =>
    simp only [perform, Checker.checkRecord_forget]
    rfl

theorem performAll_forget (tasks : List Task) (checker : Checker (Logged σ)) :
    performAll tasks checker.forget =
      ((performAll tasks checker).1, (performAll tasks checker).2.forget) := by
  induction tasks generalizing checker with
  | nil => rfl
  | cons task tasks ih => simp only [performAll, perform_forget, ih]

end Task

/-- Whatever a checker was used for, the metrics agree with what happened. -/
theorem metrics_of_tasks (tasks : List Task) (session : σ) (clock : Nat → Elapsed) :
    let used := Task.performAll tasks ({ session := { session } } : Checker (Logged σ))
    let log := used.2.session.log
    let hooks := used.2.notices.filterMap Notice.step?
    let tally : Tally :=
      { steps := log.countP Log.isRead
        mismatches := used.1.countP Reply.isFailed
        resumes := log.count (.resume, .done)
        runs := used.1.countP Reply.isConcluded }
    (Recorder.ofNotices clock used.2.notices).Shows tally ∧ hooks.length = tally.steps ∧
      tally.resumes = tally.steps + log.countP Log.isUnread ∧
      (tally.runs ≠ 0 ↔ ∃ outcome, Reply.checked (.ok outcome) ∈ used.1) ∧
      Task.performAll tasks ({ session } : Checker σ) = (used.1, used.2.forget) := by
  intro used log hooks tally
  obtain ⟨log', notices, hl, hn, hacc⟩ :=
    Advances.performAll tasks ({ session := { session } } : Checker (Logged σ))
  rw [List.nil_append] at hl hn
  subst hl hn
  have htally : Tally.ofNotices used.2.notices = tally := by
    simp only [Tally.ofNotices, tally, Tally.mk.injEq]
    exact ⟨hacc.comparisons, hacc.mismatches, hacc.resumes, hacc.runs⟩
  refine ⟨htally ▸ Recorder.shows_ofNotices clock _, hacc.steps, hacc.dumps, ?_,
    Task.performAll_forget tasks ({ session := { session } } : Checker (Logged σ))⟩
  rw [← Nat.pos_iff_ne_zero, List.countP_pos_iff]
  constructor
  · rintro ⟨reply, hr, hc⟩
    obtain ⟨outcome, rfl⟩ := Reply.isConcluded_iff.mp hc
    exact ⟨outcome, hr⟩
  · rintro ⟨outcome, hr⟩
    exact ⟨_, hr, rfl⟩

end

end Lockstep
