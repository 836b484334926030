import Lockstep.Proofs.Checker.Likeness
import Lockstep.Session.Script

namespace Lockstep

inductive Answer where
  | done
  | text (dump : String)
  | refused (error : SessionError)
  deriving DecidableEq

def Answer.text? : Answer → Option String
  | text dump => some dump
  | _ => none

abbrev Log := List (Call × Answer)

def Log.dumps (log : Log) : List String := log.filterMap fun entry ↦ entry.2.text?

/-- A debugger that writes down every call. -/
structure Logged (σ : Type) where
  session : σ
  log : Log := []

namespace Logged

variable {σ α β : Type}

def perform (call : Call) (answer : α → Answer) (action : Attempt SessionError σ α) :
    Attempt SessionError (Logged σ) α := fun logged ↦
  match action logged.session with
  | (.ok a, session) => (.ok a, ⟨session, logged.log ++ [(call, answer a)]⟩)
  | (.error error, session) => (.error error, ⟨session, logged.log ++ [(call, .refused error)]⟩)

instance [Debugger σ] : Debugger (Logged σ) where
  configure settings := perform (.configure settings) (fun _ ↦ .done) (Debugger.configure settings)
  attach endpoint := perform (.attach endpoint) (fun _ ↦ .done) (Debugger.attach endpoint)
  breakAt address := perform (.breakAt address) (fun _ ↦ .done) (Debugger.breakAt address)
  resume := perform .resume (fun _ ↦ .done) Debugger.resume
  dump := perform .dump .text Debugger.dump
  disconnect := perform .disconnect (fun _ ↦ .done) Debugger.disconnect

variable {call : Call} {answer : α → Answer} {action : Attempt SessionError σ α}
  {logged after : Logged σ}

theorem log_of_perform_ok {a : α} (h : perform call answer action logged = (.ok a, after)) :
    after.log = logged.log ++ [(call, answer a)] := by
  unfold perform at h
  split at h
  · obtain ⟨ha, rfl⟩ := Attempt.pair_eq_iff.mp h
    cases ha
    rfl
  · obtain ⟨ha, rfl⟩ := Attempt.pair_eq_iff.mp h
    cases ha

theorem log_of_perform_error {error : SessionError}
    (h : perform call answer action logged = (.error error, after)) :
    after.log = logged.log ++ [(call, .refused error)] := by
  unfold perform at h
  split at h
  · obtain ⟨ha, rfl⟩ := Attempt.pair_eq_iff.mp h
    cases ha
  · obtain ⟨ha, rfl⟩ := Attempt.pair_eq_iff.mp h
    cases ha
    rfl

/-- An action does the same with and without a log. -/
def Mirrors (x : Attempt SessionError (Logged σ) α) (y : Attempt SessionError σ α) : Prop :=
  ∀ logged, y logged.session = ((x logged).1, (x logged).2.session)

theorem Mirrors.perform : Mirrors (perform call answer action) action := by
  intro logged
  unfold Logged.perform
  rcases action logged.session with ⟨_ | a, s⟩ <;> rfl

theorem Mirrors.alike {x : Attempt SessionError (Logged σ) α} {y : Attempt SessionError σ α}
    (h : Mirrors x y) : Attempt.Alike (fun logged session ↦ logged.session = session) x y := by
  rintro logged _ rfl
  rw [h logged]
  exact ⟨rfl, rfl⟩

theorem alike_session [Debugger σ] :
    Debugger.Alike fun (logged : Logged σ) session ↦ logged.session = session where
  configure _ := Mirrors.perform.alike
  attach _ := Mirrors.perform.alike
  breakAt _ := Mirrors.perform.alike
  resume := Mirrors.perform.alike
  dump := Mirrors.perform.alike
  disconnect := Mirrors.perform.alike

structure Grown {τ : Type} (R : σ → τ → Prop) (start : Logged σ) (start' : Logged τ)
    (logged : Logged σ) (logged' : Logged τ) : Prop where
  session : R logged.session logged'.session
  log : ∃ log, logged.log = start.log ++ log ∧ logged'.log = start'.log ++ log

namespace Grown

variable {τ : Type} {R : σ → τ → Prop} {start : Logged σ} {start' : Logged τ}

theorem refl (h : R start.session start'.session) : Grown R start start' start start' :=
  ⟨h, [], by simp, by simp⟩

theorem perform {y : Attempt SessionError τ α} (h : Attempt.Alike R action y) :
    Attempt.Alike (Grown R start start') (perform call answer action) (perform call answer y) := by
  rintro ⟨s, _⟩ ⟨t, _⟩ ⟨hR, log, rfl, rfl⟩
  rcases hx : action s with ⟨error | a, s'⟩
  · obtain ⟨t', hy, hafter⟩ := h.apply hR hx
    simp only [Logged.perform, hx, hy]
    exact ⟨trivial, hafter, log ++ [(call, .refused error)], by simp, by simp⟩
  · obtain ⟨t', hy, hafter⟩ := h.apply hR hx
    simp only [Logged.perform, hx, hy]
    exact ⟨trivial, hafter, log ++ [(call, answer a)], by simp, by simp⟩

theorem alike [Debugger σ] [Debugger τ] (h : Debugger.Alike R) :
    Debugger.Alike (Grown R start start') where
  configure settings := perform (h.configure settings)
  attach endpoint := perform (h.attach endpoint)
  breakAt address := perform (h.breakAt address)
  resume := perform h.resume
  dump := perform h.dump
  disconnect := perform h.disconnect

end Grown

end Logged

variable {σ : Type} [Debugger σ] {cursor : Cursor} {settings : Settings} {endpoint : String}

def Checker.forget {σ : Type} (checker : Checker (Logged σ)) : Checker σ :=
  ⟨checker.session.session, checker.progress, checker.notices⟩

theorem Ends.forget {start : Logged σ} {result : Except CheckError Outcome}
    {final : Checker (Logged σ)} (h : Ends cursor settings endpoint start result final) :
    Ends cursor settings endpoint start.session result final.forget := by
  obtain ⟨⟨session, progress, notices⟩, hends, hs, hp, hn⟩ := h.alike Logged.alike_session rfl
  subst hs hp hn
  exact hends

theorem Checker.checkTrace_forget {checker after : Checker (Logged σ)}
    {result : Except CheckError Outcome}
    (h : checkTrace cursor endpoint settings checker = (result, after)) :
    checkTrace cursor endpoint settings checker.forget = (result, after.forget) := by
  obtain ⟨final, hends, rfl⟩ := ends_of_checkTrace h
  have hforget : Ends cursor settings endpoint checker.forget.session result final.forget :=
    hends.forget
  exact checkTrace_of_ends hforget

end Lockstep
