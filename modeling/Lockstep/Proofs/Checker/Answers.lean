import Lockstep.Proofs.Checker.Log

namespace Lockstep

variable {σ τ α : Type}

def Answer.ofResult (answer : α → Answer) : Except SessionError α × σ → Answer × σ
  | (.ok a, debugger) => (answer a, debugger)
  | (.error error, debugger) => (.refused error, debugger)

namespace Debugger

def respond [Debugger σ] (call : Call) (debugger : σ) : Answer × σ :=
  match call with
  | .configure settings => Answer.ofResult (fun _ ↦ .done) (configure settings debugger)
  | .attach endpoint => Answer.ofResult (fun _ ↦ .done) (attach endpoint debugger)
  | .breakAt address => Answer.ofResult (fun _ ↦ .done) (breakAt address debugger)
  | .resume => Answer.ofResult (fun _ ↦ .done) (resume debugger)
  | .dump => Answer.ofResult .text (dump debugger)
  | .disconnect => Answer.ofResult (fun _ ↦ .done) (disconnect debugger)

def answers [Debugger σ] : List Call → σ → List Answer
  | [], _ => []
  | call :: calls, debugger =>
    (respond call debugger).1 :: answers calls (respond call debugger).2

/-- No calls tell the debuggers apart. -/
def SameAnswers [Debugger σ] [Debugger τ] (debugger : σ) (other : τ) : Prop :=
  ∀ calls, answers calls debugger = answers calls other

end Debugger

namespace Answer

variable {answer : α → Answer}

theorem ofResult_snd (outcome : Except SessionError α × σ) :
    (ofResult answer outcome).2 = outcome.2 := by
  rcases outcome with ⟨_ | a, debugger⟩ <;> rfl

theorem ofResult_fst_inj (hi : Function.Injective answer)
    (hr : ∀ a error, answer a ≠ .refused error) {outcome : Except SessionError α × σ}
    {outcome' : Except SessionError α × τ}
    (h : (ofResult answer outcome).1 = (ofResult answer outcome').1) : outcome.1 = outcome'.1 := by
  rcases outcome with ⟨error | a, debugger⟩
  · rcases outcome' with ⟨error' | a', debugger'⟩
    · exact congrArg _ (Answer.refused.inj h)
    · exact absurd h.symm (hr a' error)
  · rcases outcome' with ⟨error' | a', debugger'⟩
    · exact absurd h (hr a error')
    · exact congrArg _ (hi h)

theorem ofResult_alike {R : σ → τ → Prop} {x : Attempt SessionError σ α}
    {y : Attempt SessionError τ α} (h : Attempt.Alike R x y) (answer : α → Answer) {s : σ} {t : τ}
    (hR : R s t) :
    (ofResult answer (x s)).1 = (ofResult answer (y t)).1 ∧
      R (ofResult answer (x s)).2 (ofResult answer (y t)).2 := by
  rcases hx : x s with ⟨error | a, s'⟩
  · obtain ⟨t', hy, hafter⟩ := h.apply hR hx
    rw [hy]
    exact ⟨rfl, hafter⟩
  · obtain ⟨t', hy, hafter⟩ := h.apply hR hx
    rw [hy]
    exact ⟨rfl, hafter⟩

end Answer

namespace Debugger

variable [Debugger σ] [Debugger τ] {debugger : σ} {other : τ}

theorem SameAnswers.respond (h : SameAnswers debugger other) (call : Call) :
    (respond call debugger).1 = (respond call other).1 ∧
      SameAnswers (respond call debugger).2 (respond call other).2 :=
  ⟨(List.cons.inj (h [call])).1, fun calls ↦ (List.cons.inj (h (call :: calls))).2⟩

theorem alike_of_respond (call : Call) {answer : α → Answer} (hi : Function.Injective answer)
    (hr : ∀ a error, answer a ≠ .refused error) {x : Attempt SessionError σ α}
    {y : Attempt SessionError τ α} (hx : respond call = fun s ↦ Answer.ofResult answer (x s))
    (hy : respond call = fun t ↦ Answer.ofResult answer (y t)) :
    Attempt.Alike SameAnswers x y := by
  intro s t h
  obtain ⟨hanswer, hafter⟩ := h.respond call
  rw [hx, hy] at hanswer hafter
  refine ⟨Answer.ofResult_fst_inj hi hr hanswer, ?_⟩
  simpa only [Answer.ofResult_snd] using hafter

theorem alike_of_done (call : Call) {x : Attempt SessionError σ Unit}
    {y : Attempt SessionError τ Unit}
    (hx : Debugger.respond call = fun s ↦ Answer.ofResult (fun _ ↦ .done) (x s))
    (hy : Debugger.respond call = fun t ↦ Answer.ofResult (fun _ ↦ .done) (y t)) :
    Attempt.Alike SameAnswers x y :=
  alike_of_respond call (Function.injective_of_subsingleton _) (by simp) hx hy

theorem alike_sameAnswers : Alike (@SameAnswers σ τ _ _) where
  configure settings := alike_of_done (.configure settings) rfl rfl
  attach endpoint := alike_of_done (.attach endpoint) rfl rfl
  breakAt address := alike_of_done (.breakAt address) rfl rfl
  resume := alike_of_done .resume rfl rfl
  dump := alike_of_respond .dump (fun _ _ ↦ Answer.text.inj) (by simp) rfl rfl
  disconnect := alike_of_done .disconnect rfl rfl

theorem Alike.respond {R : σ → τ → Prop} (h : Alike R) (hR : R debugger other) (call : Call) :
    (Debugger.respond call debugger).1 = (Debugger.respond call other).1 ∧
      R (Debugger.respond call debugger).2 (Debugger.respond call other).2 := by
  cases call with
  | configure settings => exact Answer.ofResult_alike (h.configure settings) _ hR
  | attach endpoint => exact Answer.ofResult_alike (h.attach endpoint) _ hR
  | breakAt address => exact Answer.ofResult_alike (h.breakAt address) _ hR
  | resume => exact Answer.ofResult_alike h.resume _ hR
  | dump => exact Answer.ofResult_alike h.dump _ hR
  | disconnect => exact Answer.ofResult_alike h.disconnect _ hR

theorem Alike.sameAnswers {R : σ → τ → Prop} (h : Alike R) (hR : R debugger other) :
    SameAnswers debugger other := by
  intro calls
  induction calls generalizing debugger other with
  | nil => rfl
  | cons call calls ih =>
    obtain ⟨hanswer, hafter⟩ := h.respond hR call
    rw [answers, answers, hanswer, ih hafter]

end Debugger

namespace ScriptedSession

theorem alike_perform {call : Call} {result : Script → Except SessionError α}
    {rest : Script → Script} :
    Attempt.Alike (fun session other ↦ session.script = other.script) (perform call result rest)
      (perform call result rest) := by
  rintro ⟨script, _⟩ ⟨_, _⟩ rfl
  exact ⟨rfl, rfl⟩

theorem alike_script :
    Debugger.Alike fun (session other : ScriptedSession) ↦ session.script = other.script where
  configure _ := alike_perform
  attach _ := alike_perform
  breakAt _ := alike_perform
  resume := alike_perform
  dump := alike_perform
  disconnect := alike_perform

end ScriptedSession

/-- Runs with the same result, and with the same calls and notices on the way. -/
structure RunsAlike [Debugger σ] [Debugger τ] (before : Checker (Logged σ))
    (before' : Checker (Logged τ)) (run : Except CheckError α × Checker (Logged σ))
    (run' : Except CheckError α × Checker (Logged τ)) : Prop where
  result_eq : run.1 = run'.1
  calls : ∃ log, run.2.session.log = before.session.log ++ log ∧
    run'.2.session.log = before'.session.log ++ log
  notices : ∃ notices, run.2.notices = before.notices ++ notices ∧
    run'.2.notices = before'.notices ++ notices
  answers : Debugger.SameAnswers run.2.session.session run'.2.session.session

variable [Debugger σ] [Debugger τ]

theorem Checker.checkTrace_of_sameAnswers {before : Checker (Logged σ)}
    {before' : Checker (Logged τ)}
    (h : Debugger.SameAnswers before.session.session before'.session.session) (cursor : Cursor)
    (endpoint : String) (settings : Settings) :
    let run := checkTrace cursor endpoint settings before
    let run' := checkTrace cursor endpoint settings before'
    RunsAlike before before' run run' ∧ run.2.progress = run'.2.progress := by
  intro run run'
  obtain ⟨result, final, final', ⟨⟨hs, hlog⟩, hp, hn⟩, hrun, hrun'⟩ :=
    checkTrace_alike (Logged.Grown.alike Debugger.alike_sameAnswers) before before' (.refl h)
  rw [show run = _ from hrun, show run' = _ from hrun']
  exact ⟨⟨rfl, hlog, ⟨final.notices, rfl, by rw [hn]⟩, hs⟩, hp⟩

end Lockstep
