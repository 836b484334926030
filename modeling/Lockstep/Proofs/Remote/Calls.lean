import Lockstep.Proofs.Remote.Exchanges
import Lockstep.Remote.Session
import Lockstep.Session.Script

namespace Lockstep

namespace Debugger

variable {σ : Type} [Debugger σ]

def perform : Call → Attempt SessionError σ Unit
  | .configure settings => configure settings
  | .attach endpoint => attach endpoint
  | .breakAt address => breakAt address
  | .resume => resume
  | .dump => do
    let _ ← dump
    pure ()
  | .disconnect => disconnect

/-- The debugger after calls. One that fails does not keep the next one from being made. -/
def afterCalls (calls : List Call) (debugger : σ) : σ :=
  calls.foldl (fun debugger call ↦ (perform call debugger).2) debugger

end Debugger

/-- What is said to a stub that is greeted: nothing more once a reply is not accepted, or tells of no
halt. -/
inductive Greets : List Said → Except SessionError Unit → Prop
  | noFeatures (error : SessionError) :
      Greets [(.features, some (.error error))] (.error error)
  | noHalt (features : String) (error : SessionError) :
      Greets [(.features, some (.ok features)), (.haltReason, some (.error error))] (.error error)
  | badHalt (features : String) {halt : String} (hp : StopReply.parse? halt = none) :
      Greets [(.features, some (.ok features)), (.haltReason, some (.ok halt))]
        (.error (.protocol s!"unexpected halt reason '{halt}'"))
  | notAttached (features : String) {halt : String} {stop : StopReply} (error : SessionError)
      (hp : StopReply.parse? halt = some stop) :
      Greets [(.features, some (.ok features)), (.haltReason, some (.ok halt)),
        (.isAttached, some (.error error))] (.error error)
  | attached (features : String) {halt : String} {stop : StopReply} (attached : String)
      (hp : StopReply.parse? halt = some stop) :
      Greets [(.features, some (.ok features)), (.haltReason, some (.ok halt)),
        (.isAttached, some (.ok attached))] (.ok ())

theorem Greets.commands_prefix {said : List Said} {result : Except SessionError Unit}
    (h : Greets said result) : said.map Prod.fst <+: [.features, .haltReason, .isAttached] := by
  cases h with
  | noFeatures => exact ⟨[.haltReason, .isAttached], rfl⟩
  | noHalt => exact ⟨[.isAttached], rfl⟩
  | badHalt => exact ⟨[.isAttached], rfl⟩
  | notAttached => exact List.prefix_rfl
  | attached => exact List.prefix_rfl

/-- A reply was accepted, and it tells that the target stopped at a signal. -/
def Stops (outcome : Except SessionError String) : Prop :=
  ∃ reply code, outcome = .ok reply ∧ StopReply.parse? reply = some (.signal code)

/-- What is said to an attached stub in a call, with the remembered breakpoint before and after. -/
inductive Acts : Option Word → Call → List Said → Except SessionError Unit → Option Word → Prop
  | placed (pending : Option Word) (address : Word) :
      Acts pending (.breakAt address) [(.placeBreakpoint address, some (.ok "OK"))] (.ok ())
        (some address)
  | notPlaced (pending : Option Word) (address : Word) {outcome : Except SessionError String}
      (error : SessionError) (ho : outcome ≠ .ok "OK") :
      Acts pending (.breakAt address) [(.placeBreakpoint address, some outcome)] (.error error)
        pending
  | notAwaited (pending : Option Word) :
      Acts pending .resume [(.go, none)] (.error (.io .zeroTimeout)) pending
  | notStopped (pending : Option Word) {outcome : Except SessionError String}
      (error : SessionError) (hs : ¬ Stops outcome) :
      Acts pending .resume [(.go, some outcome)] (.error error) pending
  | stopped {outcome : Except SessionError String} (hs : Stops outcome) :
      Acts none .resume [(.go, some outcome)] (.ok ()) none
  | removed (address : Word) {outcome : Except SessionError String} (hs : Stops outcome) :
      Acts (some address) .resume
        [(.go, some outcome), (.removeBreakpoint address, some (.ok "OK"))] (.ok ()) none
  | notRemoved (address : Word) {outcome outcome' : Except SessionError String}
      (error : SessionError) (hs : Stops outcome) (ho : outcome' ≠ .ok "OK") :
      Acts (some address) .resume
        [(.go, some outcome), (.removeBreakpoint address, some outcome')] (.error error) none
  | dumped (pending : Option Word) (outcome : Except SessionError String)
      (result : Except SessionError Unit) :
      Acts pending .dump [(.registers, some outcome)] result pending

namespace RemoteSession

/-- All that a call can do to a session, with the exchanges that it takes. -/
inductive Does (session : RemoteSession) :
    Call → List Exchange → Except SessionError Unit → RemoteSession → Prop
  | configured (settings : Settings) (result : Except SessionError Unit) {after : RemoteSession}
      (hw : after.wire = session.wire) (hc : after.connection = session.connection)
      (hp : after.pending = session.pending) :
      Does session (.configure settings) [] result after
  | unreachable (address : String) (error : SessionError) :
      Does session (.attach address) [] (.error error) session
  | notGreeted {address : String} {start finish : Link} {exchanges : List Exchange}
      {error : SessionError}
      (hs : session.wire.connect address = .ok (start.wire, start.connection))
      (ht : start.Talks exchanges finish)
      (hg : Greets (exchanges.map Exchange.said) (.error error)) :
      Does session (.attach address) exchanges (.error error) { session with wire := finish.wire }
  | greeted {address : String} {start finish : Link} {exchanges : List Exchange}
      (hs : session.wire.connect address = .ok (start.wire, start.connection))
      (ht : start.Talks exchanges finish) (hg : Greets (exchanges.map Exchange.said) (.ok ())) :
      Does session (.attach address) exchanges (.ok ())
        { session with wire := finish.wire, connection := some finish.connection }
  | unattached {call : Call} (hc : session.connection = none)
      (hcall : call = .resume ∨ call = .dump ∨ ∃ address, call = .breakAt address) :
      Does session call [] (.error .notAttached) session
  | idle (hc : session.connection = none) : Does session .disconnect [] (.ok ()) session
  | acted {call : Call} {connection : Connection} {finish : Link} {exchanges : List Exchange}
      {result : Except SessionError Unit} {pending : Option Word}
      (hc : session.connection = some connection)
      (ht : Link.Talks ⟨session.wire, connection⟩ exchanges finish)
      (ha : Acts session.pending call (exchanges.map Exchange.said) result pending) :
      Does session call exchanges result
        { session with wire := finish.wire, connection := some finish.connection, pending }
  | detached {connection : Connection} {finish : Link} {exchange : Exchange}
      (result : Except SessionError Unit) (hc : session.connection = some connection)
      (ht : Link.Talks ⟨session.wire, connection⟩ [exchange] finish)
      (hd : exchange.command = .detach) :
      Does session .disconnect [exchange] result
        { session with wire := finish.wire, connection := none }

/-- The exchanges of a session in a sequence of calls. -/
inductive Runs : RemoteSession → List Call → List Exchange → RemoteSession → Prop
  | nil (session : RemoteSession) : Runs session [] [] session
  | cons {session finish : RemoteSession} {call : Call} {calls : List Call}
      {exchanges later : List Exchange}
      (h : Does session call exchanges (Debugger.perform call session).1
        (Debugger.perform call session).2)
      (hr : Runs (Debugger.perform call session).2 calls later finish) :
      Runs session (call :: calls) (exchanges ++ later) finish

end RemoteSession

namespace Link

variable {link : Link} {command : Command}

theorem requestOk_of_ok (h : (request command link).1 = .ok "OK") :
    requestOk command link = (.ok (), (request command link).2) := by
  rw [requestOk_apply, h]
  rfl

theorem requestOk_of_ne (h : (request command link).1 ≠ .ok "OK") :
    ∃ error, requestOk command link = (.error error, (request command link).2) := by
  rw [requestOk_apply]
  cases ho : (request command link).1 with
  | error error => exact ⟨error, rfl⟩
  | ok reply =>
    have hne : reply ≠ "OK" := fun he ↦ h (ho.trans (congrArg _ he))
    rw [Command.judge, if_neg hne]
    exact ⟨_, rfl⟩

theorem greets_handshake (link : Link) :
    ∃ said, link.Says said (handshake link).2 ∧ Greets said (handshake link).1 := by
  have h₁ := link.says_request .features
  rcases hf : request .features link with ⟨error | features, second⟩
  · rw [hf] at h₁
    have hh : handshake link = (.error error, second) := by
      simp only [handshake, Attempt.bind_apply, hf]
    rw [hh]
    exact ⟨_, h₁, .noFeatures error⟩
  rw [hf] at h₁
  have h₂ := second.says_request .haltReason
  rcases hr : request .haltReason second with ⟨error | halt, third⟩
  · rw [hr] at h₂
    have hh : handshake link = (.error error, third) := by
      simp only [handshake, Attempt.bind_apply, hf, hr]
    rw [hh]
    exact ⟨_, h₁.append h₂, .noHalt features error⟩
  rw [hr] at h₂
  cases hp : StopReply.parse? halt with
  | none =>
    have hh : handshake link = (.error (.protocol s!"unexpected halt reason '{halt}'"), third) := by
      simp only [handshake, Attempt.bind_apply, hf, hr, hp, Attempt.throw_apply]
    rw [hh]
    exact ⟨_, h₁.append h₂, .badHalt features hp⟩
  | some stop =>
  have h₃ := third.says_request .isAttached
  rcases ha : request .isAttached third with ⟨error | attached, last⟩
  · rw [ha] at h₃
    have hh : handshake link = (.error error, last) := by
      simp only [handshake, Attempt.bind_apply, hf, hr, hp, ha]
    rw [hh]
    exact ⟨_, (h₁.append h₂).append h₃, .notAttached features error hp⟩
  · rw [ha] at h₃
    have hh : handshake link = (.ok (), last) := by
      simp only [handshake, Attempt.bind_apply, hf, hr, hp, ha, Attempt.pure_apply]
    rw [hh]
    exact ⟨_, (h₁.append h₂).append h₃, .attached features attached hp⟩

theorem go_cases (limit : Option Elapsed) (link : Link) :
    (∃ sent, send .go link = (.ok (), sent) ∧ go limit link = (.error (.io .zeroTimeout), sent)) ∨
    (∃ reply stop, (request .go link).1 = .ok reply ∧ StopReply.parse? reply = some stop ∧
      go limit link = (.ok stop, (request .go link).2)) ∨
    (∃ error, go limit link = (.error error, (request .go link).2) ∧
      ∀ reply, (request .go link).1 = .ok reply → StopReply.parse? reply = none) := by
  rcases hs : send .go link with ⟨error | ⟨⟩, sent⟩
  · rw [go_of_unsent hs, request_of_unsent hs]
    exact .inr (.inr ⟨error, rfl, nofun⟩)
  by_cases hz : limit = some ⟨0⟩
  · refine .inl ⟨sent, rfl, ?_⟩
    rw [go, Attempt.bind_apply, hs]
    simp [awaitReply, hz, Attempt.bind_apply, Attempt.throw_apply]
  right
  rw [go_of_sent hz hs, request_of_sent hs]
  cases (receive sent).1 with
  | error error => exact .inr ⟨_, rfl, by simp⟩
  | ok reply =>
    cases hp : StopReply.parse? reply with
    | none =>
      refine .inr ⟨_, by rw [StopReply.judge, hp], ?_⟩
      intro other ho
      rw [← Except.ok.inj ho, hp]
    | some stop => exact .inl ⟨reply, stop, rfl, hp, by rw [StopReply.judge, hp]⟩

end Link

namespace RemoteSession

variable {session : RemoteSession} {connection : Connection}

theorem onConnection_of_none {α : Type} (action : Attempt SessionError Link α)
    (hc : session.connection = none) :
    onConnection action session = (.error .notAttached, session) := by
  simp only [onConnection, hc]

theorem onConnection_of_some {α : Type} (action : Attempt SessionError Link α)
    (hc : session.connection = some connection) :
    onConnection action session = ((action ⟨session.wire, connection⟩).1,
      { session with
        wire := (action ⟨session.wire, connection⟩).2.wire
        connection := some (action ⟨session.wire, connection⟩).2.connection }) := by
  rw [onConnection, hc]
  rfl

theorem breakAt_of_none (hc : session.connection = none) (address : Word) :
    breakAt address session = (.error .notAttached, session) := by
  rw [breakAt, Attempt.bind_apply, onConnection_of_none _ hc]

theorem resume_of_none (hc : session.connection = none) :
    resume session = (.error .notAttached, session) := by
  rw [resume, Attempt.bind_apply, Attempt.get_apply]
  dsimp only
  rw [Attempt.bind_apply, onConnection_of_none _ hc]

theorem dump_of_none (hc : session.connection = none) :
    RemoteSession.dump session = (.error .notAttached, session) := by
  rw [RemoteSession.dump, Attempt.bind_apply, onConnection_of_none _ hc]

theorem exists_does_of_acts {call : Call} {said : List Said} {result : Except SessionError Unit}
    {pending : Option Word} {link : Link} (hc : session.connection = some connection)
    (hs : Link.Says ⟨session.wire, connection⟩ said link)
    (ha : Acts session.pending call said result pending) :
    ∃ exchanges, session.Does call exchanges result
      { session with wire := link.wire, connection := some link.connection, pending } := by
  obtain ⟨exchanges, rfl, ht⟩ := hs
  exact ⟨exchanges, .acted hc ht ha⟩

theorem exists_does_breakAt (session : RemoteSession) (address : Word) :
    ∃ exchanges, session.Does (.breakAt address) exchanges (breakAt address session).1
      (breakAt address session).2 := by
  cases hc : session.connection with
  | none =>
    rw [breakAt_of_none hc]
    exact ⟨[], .unattached hc (.inr (.inr ⟨address, rfl⟩))⟩
  | some connection =>
    have hs := Link.says_request ⟨session.wire, connection⟩ (.placeBreakpoint address)
    have hb := onConnection_of_some (Link.requestOk (.placeBreakpoint address)) hc
    by_cases ho : (Link.request (.placeBreakpoint address) ⟨session.wire, connection⟩).1 = .ok "OK"
    · rw [Link.requestOk_of_ok ho] at hb
      rw [breakAt, Attempt.bind_apply, hb]
      rw [ho] at hs
      exact exists_does_of_acts hc hs (.placed _ address)
    · obtain ⟨error, he⟩ := Link.requestOk_of_ne ho
      rw [he] at hb
      rw [breakAt, Attempt.bind_apply, hb]
      exact exists_does_of_acts hc hs (.notPlaced _ address error ho)

theorem clearPending_of_none (hp : session.pending = none) :
    clearPending session = (.ok (), session) := by
  rw [clearPending, Attempt.bind_apply, Attempt.get_apply]
  dsimp only
  rw [hp]
  rfl

theorem clearPending_of_some {address : Word} (hp : session.pending = some address) :
    clearPending session = onConnection (Link.requestOk (.removeBreakpoint address))
      { session with pending := none } := by
  rw [clearPending, Attempt.bind_apply, Attempt.get_apply]
  dsimp only
  rw [hp]
  dsimp only
  rw [Attempt.bind_apply, Attempt.modify_apply]

theorem exists_does_clearPending {outcome : Except SessionError String} {link : Link}
    (hc : session.connection = some connection)
    (hgo : Link.Says ⟨session.wire, connection⟩ [(.go, some outcome)] link) (hs : Stops outcome) :
    let stopped := { session with wire := link.wire, connection := some link.connection }
    ∃ exchanges, session.Does .resume exchanges (clearPending stopped).1
      (clearPending stopped).2 := by
  intro stopped
  cases hp : session.pending with
  | none =>
    have hclear : clearPending stopped = (.ok (), stopped) := clearPending_of_none hp
    rw [hclear]
    exact exists_does_of_acts hc hgo (hp ▸ .stopped hs)
  | some address =>
    have hlink : ({ stopped with pending := none } : RemoteSession).connection =
      some link.connection := rfl
    have hall := hgo.append (link.says_request (.removeBreakpoint address))
    have hclear : clearPending stopped = _ := clearPending_of_some hp
    rw [hclear, onConnection_of_some _ hlink]
    by_cases ho : (Link.request (.removeBreakpoint address) link).1 = .ok "OK"
    · rw [Link.requestOk_of_ok ho]
      rw [ho] at hall
      exact exists_does_of_acts hc hall (hp ▸ .removed address hs)
    · obtain ⟨error, he⟩ := Link.requestOk_of_ne ho
      rw [he]
      exact exists_does_of_acts hc hall (hp ▸ .notRemoved address error hs ho)

theorem exists_does_resume (session : RemoteSession) :
    ∃ exchanges, session.Does .resume exchanges (resume session).1 (resume session).2 := by
  cases hc : session.connection with
  | none =>
    rw [resume_of_none hc]
    exact ⟨[], .unattached hc (.inl rfl)⟩
  | some connection =>
  have hgo := Link.says_request ⟨session.wire, connection⟩ .go
  rw [resume, Attempt.bind_apply, Attempt.get_apply]
  dsimp only
  rw [Attempt.bind_apply, onConnection_of_some _ hc]
  obtain ⟨sent, hs, hg⟩ | ⟨reply, stop, hr, hp, hg⟩ | ⟨error, hg, hn⟩ :=
    Link.go_cases session.settings.resumeLimit ⟨session.wire, connection⟩
  · rw [hg]
    exact exists_does_of_acts hc (Link.says_of_sent hs) (.notAwaited _)
  · rw [hr] at hgo
    rw [hg]
    by_cases hs : ∃ code, stop = .signal code
    · obtain ⟨code, rfl⟩ := hs
      exact exists_does_clearPending hc hgo ⟨reply, code, rfl, hp⟩
    · have hn : ¬ Stops (.ok reply) := by
        intro hstops
        obtain ⟨reply', code, ho, hp'⟩ := hstops
        cases ho
        exact hs ⟨code, Option.some.inj (hp.symm.trans hp')⟩
      cases stop with
      | signal code => exact absurd ⟨code, rfl⟩ hs
      | exited status => exact exists_does_of_acts hc hgo (.notStopped _ _ hn)
      | terminated signal => exact exists_does_of_acts hc hgo (.notStopped _ _ hn)
  · rw [hg]
    refine exists_does_of_acts hc hgo (.notStopped _ error ?_)
    intro hstops
    obtain ⟨reply, code, ho, hp⟩ := hstops
    rw [hn reply ho] at hp
    cases hp

theorem exists_does_dump (session : RemoteSession) :
    ∃ exchanges, session.Does .dump exchanges
      (Debugger.perform .dump session).1 (Debugger.perform .dump session).2 := by
  have hbind : Debugger.perform .dump session = (onConnection (Link.request .registers) >>=
      fun reply ↦ do
        let layout := (← get).layout
        let _ ← Attempt.ofExcept (readRegisters layout reply)
        pure ()) session := by
    change (RemoteSession.dump >>= fun _ ↦ pure ()) session = _
    rw [RemoteSession.dump, bind_assoc]
    rfl
  rw [hbind, Attempt.bind_apply]
  cases hc : session.connection with
  | none =>
    rw [onConnection_of_none _ hc]
    exact ⟨[], .unattached hc (.inr (.inl rfl))⟩
  | some connection =>
  have hs := Link.says_request ⟨session.wire, connection⟩ .registers
  rw [onConnection_of_some _ hc]
  cases (Link.request .registers ⟨session.wire, connection⟩).1 with
  | error error => exact exists_does_of_acts hc hs (.dumped _ _ _)
  | ok reply =>
    dsimp only
    simp only [Attempt.bind_apply, Attempt.get_apply, Attempt.ofExcept_apply]
    cases readRegisters session.layout reply with
    | error error => exact exists_does_of_acts hc hs (.dumped _ _ _)
    | ok dump => exact exists_does_of_acts hc hs (.dumped _ _ _)

theorem exists_does_attach (session : RemoteSession) (address : String) :
    ∃ exchanges, session.Does (.attach address) exchanges (attach address session).1
      (attach address session).2 := by
  unfold attach
  cases hc : session.wire.connect address with
  | error fault => exact ⟨[], .unreachable address _⟩
  | ok opened =>
    obtain ⟨wire, connection⟩ := opened
    dsimp only
    obtain ⟨_, ⟨exchanges, rfl, ht⟩, hg⟩ := Link.greets_handshake ⟨wire, connection⟩
    rcases hh : Link.handshake ⟨wire, connection⟩ with ⟨error | ⟨⟩, finish⟩
    · rw [hh] at ht hg
      exact ⟨exchanges, .notGreeted hc ht hg⟩
    · rw [hh] at ht hg
      exact ⟨exchanges, .greeted hc ht hg⟩

theorem exists_does_disconnect (session : RemoteSession) :
    ∃ exchanges, session.Does .disconnect exchanges (disconnect session).1
      (disconnect session).2 := by
  unfold disconnect
  cases hc : session.connection with
  | none => exact ⟨[], .idle hc⟩
  | some connection =>
    dsimp only
    obtain ⟨exchanges, hs, ht⟩ := Link.says_request ⟨session.wire, connection⟩ .detach
    obtain ⟨exchange, rfl, hx⟩ := List.map_eq_singleton_iff.mp hs
    rw [Link.requestOk_apply]
    exact ⟨_, .detached _ hc ht (congrArg Prod.fst hx)⟩

theorem exists_does_configure (session : RemoteSession) (settings : Settings) :
    ∃ exchanges, session.Does (.configure settings) exchanges (configure settings session).1
      (configure settings session).2 := by
  refine ⟨[], ?_⟩
  unfold configure
  cases RegisterBlock.layout? settings.architecture with
  | none => exact .configured settings _ rfl rfl rfl
  | some layout => exact .configured settings _ rfl rfl rfl

/-- Nothing that a call does is left out. -/
theorem exists_does (session : RemoteSession) (call : Call) :
    ∃ exchanges, session.Does call exchanges (Debugger.perform call session).1
      (Debugger.perform call session).2 := by
  cases call with
  | configure settings => exact exists_does_configure session settings
  | attach address => exact exists_does_attach session address
  | breakAt address => exact exists_does_breakAt session address
  | resume => exact exists_does_resume session
  | dump => exact exists_does_dump session
  | disconnect => exact exists_does_disconnect session

theorem exists_runs (session : RemoteSession) (calls : List Call) :
    ∃ history, Runs session calls history (Debugger.afterCalls calls session) := by
  induction calls generalizing session with
  | nil => exact ⟨[], .nil session⟩
  | cons call calls ih =>
    obtain ⟨exchanges, hd⟩ := session.exists_does call
    obtain ⟨later, hr⟩ := ih (Debugger.perform call session).2
    exact ⟨exchanges ++ later, .cons hd hr⟩

end RemoteSession

end Lockstep
