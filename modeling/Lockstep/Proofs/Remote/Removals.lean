import Lockstep.Proofs.Remote.Calls

namespace Lockstep

namespace Call

def isStep : Call → Bool
  | .breakAt _ | .resume | .dump => true
  | _ => false

def address? : Call → Option Word
  | .breakAt address => some address
  | _ => none

def remembered (pending : Option Word) : Call → Option Word
  | .breakAt address => some address
  | .resume => none
  | _ => pending

/-- The commands of a call that meets with no refusal. -/
def asks (pending : Option Word) : Call → List Command
  | .breakAt address => [.placeBreakpoint address]
  | .resume => .go :: pending.toList.map .removeBreakpoint
  | .dump => [.registers]
  | _ => []

def commands : Option Word → List Call → List Command
  | _, [] => []
  | pending, call :: calls => call.asks pending ++ commands (call.remembered pending) calls

/-- The breakpoints that stay with the stub: those that another one takes the place of, and the one
that is still remembered at the end. -/
def forgotten : Option Word → List Call → List Word
  | pending, [] => pending.toList
  | pending, .breakAt address :: calls => pending.toList ++ forgotten (some address) calls
  | _, .resume :: calls => forgotten none calls
  | pending, _ :: calls => forgotten pending calls

/-- There is a resume, and no placement before it. -/
def ResumesFirst (calls : List Call) : Prop :=
  ∃ between later, calls = between ++ .resume :: later ∧ ∀ address, .breakAt address ∉ between

/-- Each placement is followed by a resume before the next one. -/
def Alternates (calls : List Call) : Prop :=
  ∀ before address after, calls = before ++ .breakAt address :: after → ResumesFirst after

end Call

def Command.placed? : Command → Option Word
  | .placeBreakpoint address => some address
  | _ => none

def Command.removed? : Command → Option Word
  | .removeBreakpoint address => some address
  | _ => none

namespace Call

variable {pending : Option Word} {calls : List Call} {call : Call}

theorem placed_commands (pending : Option Word) (calls : List Call) :
    (commands pending calls).filterMap Command.placed? = calls.filterMap address? := by
  induction calls generalizing pending with
  | nil => rfl
  | cons call calls ih =>
    have hc : (call.asks pending).filterMap Command.placed? = call.address?.toList := by
      cases call with
      | resume => cases pending <;> rfl
      | _ => rfl
    rw [commands, List.filterMap_append, ih, hc]
    cases call <;> rfl

theorem perm_removed_forgotten (pending : Option Word) (calls : List Call) :
    (pending.toList ++ calls.filterMap address?).Perm
      ((commands pending calls).filterMap Command.removed? ++ forgotten pending calls) := by
  induction calls generalizing pending with
  | nil =>
    rw [List.filterMap_nil, List.append_nil]
    exact .refl _
  | cons call calls ih =>
    have h := ih (call.remembered pending)
    rw [commands, List.filterMap_append, List.append_assoc]
    cases call with
    | breakAt address =>
      exact (h.append_left pending.toList).trans (List.perm_append_comm_assoc ..)
    | resume =>
      have hr : (asks pending .resume).filterMap Command.removed? = pending.toList := by
        cases pending <;> rfl
      rw [hr]
      exact h.append_left pending.toList
    | _ => exact h

theorem resumesFirst_cons : ResumesFirst (call :: calls) ↔
    call = .resume ∨ (∀ address, call ≠ .breakAt address) ∧ ResumesFirst calls := by
  constructor
  · intro ⟨between, later, he, hn⟩
    cases between with
    | nil => exact .inl (List.cons.inj he).1
    | cons first between =>
      obtain ⟨rfl, rfl⟩ := List.cons.inj he
      refine .inr ⟨?_, between, later, rfl, fun address hm ↦ hn address (List.mem_cons_of_mem _ hm)⟩
      rintro address rfl
      exact hn address List.mem_cons_self
  · intro h
    obtain rfl | ⟨hc, between, later, rfl, hn⟩ := h
    · exact ⟨[], calls, rfl, by simp⟩
    · refine ⟨call :: between, later, rfl, ?_⟩
      intro address hm
      obtain hm | hm := List.mem_cons.mp hm
      · exact hc address hm.symm
      · exact hn address hm

theorem alternates_cons : Alternates (call :: calls) ↔
    (∀ address, call = .breakAt address → ResumesFirst calls) ∧ Alternates calls := by
  constructor
  · intro h
    constructor
    · rintro address rfl
      exact h [] address calls rfl
    · rintro before address after rfl
      exact h (call :: before) address after rfl
  · intro ⟨hc, h⟩ before address after he
    cases before with
    | nil =>
      obtain ⟨rfl, rfl⟩ := List.cons.inj he
      exact hc address rfl
    | cons first before =>
      obtain ⟨rfl, rfl⟩ := List.cons.inj he
      exact h before address after rfl

theorem not_resumesFirst_nil : ¬ ResumesFirst [] := by
  intro ⟨between, later, he, _⟩
  cases between <;> cases he

theorem alternates_nil : Alternates [] := by
  intro before address after he
  cases before <;> cases he

theorem forgotten_eq_nil_iff : forgotten pending calls = [] ↔
    (pending.isSome → ResumesFirst calls) ∧ Alternates calls := by
  induction calls generalizing pending with
  | nil =>
    have hf : forgotten pending [] = pending.toList := rfl
    rw [hf]
    cases pending <;> simp [not_resumesFirst_nil, alternates_nil]
  | cons call calls ih =>
    rw [resumesFirst_cons, alternates_cons]
    cases call with
    | breakAt address =>
      have hf : forgotten pending (.breakAt address :: calls) =
        pending.toList ++ forgotten (some address) calls := rfl
      rw [hf, List.append_eq_nil_iff, ih]
      cases pending <;> simp
    | resume =>
      have hf : forgotten pending (.resume :: calls) = forgotten none calls := rfl
      rw [hf, ih]
      simp
    | _ =>
      refine ih.trans ?_
      simp

theorem perm_removed_iff : ((commands pending calls).filterMap Command.removed?).Perm
    (pending.toList ++ calls.filterMap address?) ↔
      (pending.isSome → ResumesFirst calls) ∧ Alternates calls := by
  have hp := perm_removed_forgotten pending calls
  rw [← forgotten_eq_nil_iff]
  constructor
  · intro h
    have hl := (h.trans hp).length_eq
    rw [List.length_append] at hl
    exact List.length_eq_zero_iff.mp (by omega)
  · intro h
    rw [h, List.append_nil] at hp
    exact hp.symm

end Call

/-- The stub does what it is asked to do: it places and removes breakpoints, and it stops. -/
def Obliges : Said → Prop
  | (.placeBreakpoint _, outcome) => outcome = some (.ok "OK")
  | (.removeBreakpoint _, outcome) => outcome = some (.ok "OK")
  | (.go, outcome) => ∃ reply, outcome = some reply ∧ Stops reply
  | _ => True

namespace Acts

variable {pending after : Option Word} {call : Call} {said : List Said}
  {result : Except SessionError Unit}

theorem of_obliges (ha : Acts pending call said result after) (ho : ∀ entry ∈ said, Obliges entry) :
    said.map Prod.fst = call.asks pending ∧ after = call.remembered pending ∧
      (call = .dump ∨ result = .ok ()) := by
  cases ha with
  | placed => exact ⟨rfl, rfl, .inr rfl⟩
  | notPlaced _ address error hn =>
    have h := ho _ List.mem_cons_self
    exact absurd (Option.some.inj h) hn
  | notAwaited =>
    obtain ⟨reply, h, _⟩ := ho _ List.mem_cons_self
    cases h
  | notStopped _ error hn =>
    obtain ⟨reply, h, hs⟩ := ho _ List.mem_cons_self
    exact absurd (Option.some.inj h ▸ hs) hn
  | stopped => exact ⟨rfl, rfl, .inr rfl⟩
  | removed => exact ⟨rfl, rfl, .inr rfl⟩
  | notRemoved address error hs hn =>
    have h := ho _ (List.mem_cons_of_mem _ List.mem_cons_self)
    exact absurd (Option.some.inj h) hn
  | dumped => exact ⟨rfl, rfl, .inl rfl⟩

theorem obliges (ha : Acts pending call said result after) (hr : result = .ok ()) :
    ∀ entry ∈ said, Obliges entry := by
  subst hr
  cases ha with
  | placed => exact List.forall_mem_singleton.mpr rfl
  | stopped hs => exact List.forall_mem_singleton.mpr ⟨_, rfl, hs⟩
  | removed address hs => exact List.forall_mem_cons.mpr ⟨⟨_, rfl, hs⟩, List.forall_mem_singleton.mpr rfl⟩
  | dumped => exact List.forall_mem_singleton.mpr trivial

end Acts

namespace RemoteSession

variable {session finish : RemoteSession} {call : Call} {calls : List Call}
  {history exchanges : List Exchange} {result : Except SessionError Unit}

theorem Does.of_step (hd : Does session call exchanges result finish)
    (ha : session.isAttached = true) (hc : call.isStep = true) :
    Acts session.pending call (exchanges.map Exchange.said) result finish.pending ∧
      finish.isAttached = true := by
  cases hd with
  | configured => cases hc
  | unreachable => cases hc
  | notGreeted => cases hc
  | greeted => cases hc
  | unattached hn =>
    rw [isAttached, hn] at ha
    cases ha
  | idle => cases hc
  | acted _ _ hacts => exact ⟨hacts, rfl⟩
  | detached => cases hc

end RemoteSession

def Debugger.results {σ : Type} [Debugger σ] : List Call → σ → List (Except SessionError Unit)
  | [], _ => []
  | call :: calls, debugger =>
    (perform call debugger).1 :: results calls (perform call debugger).2

namespace RemoteSession

variable {session finish : RemoteSession} {calls : List Call} {history : List Exchange}

theorem Runs.of_obliges (hr : Runs session calls history finish)
    (ha : session.isAttached = true) (hc : ∀ call ∈ calls, call.isStep = true)
    (ho : ∀ exchange ∈ history, Obliges exchange.said) :
    history.map Exchange.command = Call.commands session.pending calls ∧
      List.Forall₂ (fun call result ↦ call = .dump ∨ result = .ok ()) calls
        (Debugger.results calls session) := by
  induction hr with
  | nil => exact ⟨rfl, .nil⟩
  | @cons _ _ _ _ exchanges _ hd _ ih =>
    obtain ⟨hcall, hc⟩ := List.forall_mem_cons.mp hc
    obtain ⟨ho, hlater⟩ := List.forall_mem_append.mp ho
    obtain ⟨hacts, hattached⟩ := hd.of_step ha hcall
    obtain ⟨hcommands, hp, hresult⟩ := hacts.of_obliges (List.forall_mem_map.mpr ho)
    obtain ⟨hrest, hresults⟩ := ih hattached hc hlater
    refine ⟨?_, .cons hresult hresults⟩
    have hmap : exchanges.map Exchange.command = (exchanges.map Exchange.said).map Prod.fst := by
      rw [List.map_map]
      rfl
    rw [List.map_append, hmap, hcommands, hrest, hp]
    rfl

theorem Runs.obliges (hr : Runs session calls history finish) (ha : session.isAttached = true)
    (hc : ∀ call ∈ calls, call.isStep = true)
    (hok : ∀ result ∈ Debugger.results calls session, result = .ok ()) :
    ∀ exchange ∈ history, Obliges exchange.said := by
  induction hr with
  | nil => simp
  | cons hd _ ih =>
    obtain ⟨hcall, hc⟩ := List.forall_mem_cons.mp hc
    obtain ⟨hok, hlater⟩ := List.forall_mem_cons.mp hok
    obtain ⟨hacts, hattached⟩ := hd.of_step ha hcall
    exact List.forall_mem_append.mpr
      ⟨List.forall_mem_map.mp (hacts.obliges hok), ih hattached hc hlater⟩

def placed (history : List Exchange) : List Word :=
  history.filterMap fun exchange ↦ exchange.command.placed?

def removed (history : List Exchange) : List Word :=
  history.filterMap fun exchange ↦ exchange.command.removed?

/-- With a stub that obliges, each breakpoint that is remembered or placed is removed or forgotten.
All of them are removed exactly if each placement is followed by a resume before the next one. -/
theorem removed_perm_placed_iff (ha : session.isAttached = true)
    (hc : ∀ call ∈ calls, call.isStep = true) (hr : Runs session calls history finish)
    (ho : ∀ exchange ∈ history, Obliges exchange.said) :
    List.Forall₂ (fun call result ↦ call = .dump ∨ result = .ok ()) calls
        (Debugger.results calls session) ∧
      placed history = calls.filterMap Call.address? ∧
      (session.pending.toList ++ placed history).Perm
        (removed history ++ Call.forgotten session.pending calls) ∧
      ((removed history).Perm (session.pending.toList ++ placed history) ↔
        (session.pending.isSome → Call.ResumesFirst calls) ∧ Call.Alternates calls) := by
  obtain ⟨hcommands, hresults⟩ := hr.of_obliges ha hc ho
  have hplaced : placed history = calls.filterMap Call.address? := by
    rw [placed, ← Call.placed_commands session.pending, ← hcommands, List.filterMap_map]
    rfl
  have hremoved : removed history =
      (Call.commands session.pending calls).filterMap Command.removed? := by
    rw [removed, ← hcommands, List.filterMap_map]
    rfl
  rw [hplaced, hremoved]
  exact ⟨hresults, rfl, Call.perm_removed_forgotten session.pending calls, Call.perm_removed_iff⟩

def attachedTo (replies : List String) : RemoteSession :=
  let reactions := (["hwbreak+", "S05", "1"] ++ replies).map Reaction.reply
  (Debugger.perform (.attach defaultEndpoint)
    { wire := { listening := [⟨"localhost", 1337⟩], reactions } }).2

theorem removed_perm_placed_in_turns :
    let session := attachedTo ["OK", "S05", "OK", "OK", "S05", "OK"]
    let calls := [.breakAt 1, .resume, .breakAt 2, .resume]
    ∃ history, Runs session calls history (Debugger.afterCalls calls session) ∧
      placed history = [1, 2] ∧ (removed history).Perm (placed history) := by
  intro session calls
  obtain ⟨history, hr⟩ := session.exists_runs calls
  have hresults : Debugger.results calls session = [.ok (), .ok (), .ok (), .ok ()] := by
    decide +kernel
  have ho := hr.obliges rfl (by decide) (by simp [hresults])
  obtain ⟨-, hplaced, -, hiff⟩ := removed_perm_placed_iff rfl (by decide) hr ho
  have hpending : session.pending = none := by decide +kernel
  have hforgotten : Call.forgotten none calls = [] := rfl
  rw [hpending] at hiff
  exact ⟨history, hr, hplaced, hiff.mpr (Call.forgotten_eq_nil_iff.mp hforgotten)⟩

theorem placed_and_never_removed :
    let session := attachedTo ["OK", "OK", "S05", "OK", "S05", "OK"]
    let calls := [.breakAt 1, .breakAt 2, .resume, .resume]
    session.isAttached = true ∧ session.pending = none ∧
      Debugger.results calls session = [.ok (), .ok (), .ok (), .ok ()] ∧
      ∃ sent, (Debugger.afterCalls calls session).wire.received = [sent] ∧
        .command (.placeBreakpoint 1) ∈ sent ∧ .command (.removeBreakpoint 1) ∉ sent :=
  ⟨rfl, rfl, rfl, _, rfl, by decide, by decide⟩

end RemoteSession

end Lockstep
