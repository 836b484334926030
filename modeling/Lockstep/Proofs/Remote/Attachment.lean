import Lockstep.Proofs.Remote.Chronicle
import Lockstep.Proofs.Remote.Detour

namespace Lockstep

theorem exists_last_cons_iff {α : Type} {p q : α → Prop} {x : α} {xs : List α} :
    (∃ before last after, x :: xs = before ++ last :: after ∧ q last ∧ ∀ y ∈ after, p y) ↔
      (∃ before last after, xs = before ++ last :: after ∧ q last ∧ ∀ y ∈ after, p y) ∨
        q x ∧ ∀ y ∈ xs, p y := by
  constructor
  · rintro ⟨_ | ⟨head, before⟩, last, after, he, hq, hp⟩
    · obtain ⟨rfl, rfl⟩ := List.cons.inj he
      exact .inr ⟨hq, hp⟩
    · obtain ⟨rfl, hxs⟩ := List.cons.inj he
      exact .inl ⟨before, last, after, hxs, hq, hp⟩
  · rintro (⟨before, last, after, rfl, hq, hp⟩ | ⟨hq, hp⟩)
    · exact ⟨x :: before, last, after, rfl, hq, hp⟩
    · exact ⟨[], x, xs, rfl, hq, hp⟩

theorem Acts.call_cases {pending pending' : Option Word} {call : Call} {said : List Said}
    {result : Except SessionError Unit} (h : Acts pending call said result pending') :
    call = .resume ∨ call = .dump ∨ ∃ address, call = .breakAt address := by
  cases h with
  | placed | notPlaced => exact .inr (.inr ⟨_, rfl⟩)
  | notAwaited | notStopped | stopped | removed | notRemoved => exact .inl rfl
  | dumped => exact .inr (.inl rfl)

namespace RemoteSession

variable {session after : RemoteSession} {call : Call} {exchanges : List Exchange}
  {result : Except SessionError Unit} {address : String} {error : SessionError}

def Attaches (entry : Call × Answer) : Prop :=
  ∃ address, entry = (.attach address, .done)

theorem Does.isAttached_iff (h : session.Does call exchanges result after) :
    after.isAttached = true ↔
      ((∃ address, call = .attach address) ∧ result = .ok ()) ∨
        session.isAttached = true ∧ call ≠ .disconnect := by
  cases h with
  | configured settings result hw hc hp => simp [isAttached, hc]
  | unreachable => simp
  | notGreeted => simp [isAttached]
  | greeted => simp [isAttached]
  | unattached hc => simp [isAttached, hc]
  | idle hc => simp [isAttached, hc]
  | acted hc ht ha =>
    have hd : call ≠ .disconnect := by
      obtain rfl | rfl | ⟨address, rfl⟩ := ha.call_cases <;> exact Call.noConfusion
    exact iff_of_true rfl (.inr ⟨congrArg Option.isSome hc, hd⟩)
  | detached => simp [isAttached]

theorem respond_attach_eq_done_iff :
    (Debugger.respond (.attach address) session).1 = .done ↔
      (attach address session).1 = .ok () := by
  change (Answer.ofResult (fun _ ↦ .done) (attach address session)).1 = .done ↔ _
  rcases attach address session with ⟨error | ⟨⟩, after⟩
  · exact iff_of_false nofun nofun
  · exact iff_of_true rfl rfl

theorem isAttached_perform (call : Call) (session : RemoteSession) :
    (Debugger.perform call session).2.isAttached = true ↔
      Attaches (call, (Debugger.respond call session).1) ∨
        session.isAttached = true ∧ call ≠ .disconnect := by
  obtain ⟨exchanges, hd⟩ := session.exists_does call
  rw [hd.isAttached_iff]
  apply or_congr_left
  constructor
  · rintro ⟨⟨address, rfl⟩, hr⟩
    exact ⟨address, Prod.ext rfl (respond_attach_eq_done_iff.mpr hr)⟩
  · rintro ⟨address, he⟩
    obtain ⟨rfl, hr⟩ := Prod.mk.inj he
    exact ⟨⟨address, rfl⟩, respond_attach_eq_done_iff.mp hr⟩

/-- A session is attached if that is the last thing that came of its calls. -/
theorem isAttached_afterCalls (calls : List Call) (session : RemoteSession) :
    (Debugger.afterCalls calls session).isAttached = true ↔
      (∃ before last after, calls.zip (Debugger.answers calls session) = before ++ last :: after ∧
        Attaches last ∧ ∀ entry ∈ after, entry.1 ≠ .disconnect) ∨
      session.isAttached = true ∧
        ∀ entry ∈ calls.zip (Debugger.answers calls session), entry.1 ≠ .disconnect := by
  induction calls generalizing session with
  | nil => simp [Debugger.afterCalls, Debugger.answers]
  | cons call calls ih =>
    have hafter : Debugger.afterCalls (call :: calls) session =
        Debugger.afterCalls calls (Debugger.perform call session).2 := rfl
    rw [hafter, ih, isAttached_perform, Debugger.answers, List.zip_cons_cons,
      exists_last_cons_iff, List.forall_mem_cons, Debugger.respond_snd, or_and_right, or_assoc,
      and_assoc]

theorem Does.attach_error (h : session.Does (.attach address) exchanges (.error error) after) :
    ∃ consumed ≤ 3, ∃ aside, aside.length ≤ 1 ∧
      after = { session with
        wire := { session.wire with
          reactions := session.wire.reactions.drop consumed
          received := session.wire.received ++ aside } } := by
  cases h with
  | unreachable => exact ⟨0, by omega, [], by simp, by simp⟩
  | @notGreeted _ start finish _ _ hs ht hg =>
    obtain ⟨-, rfl⟩ := Wire.connect_eq_ok_iff.mp hs
    have hlength := hg.commands_prefix.length_le
    rw [List.length_map, List.length_map] at hlength
    refine ⟨(Exchange.reactions exchanges).length, (List.length_filterMap_le ..).trans hlength,
      [exchanges.flatMap Exchange.transmissions], le_rfl, ?_⟩
    have hreceived : session.wire.opened.wire.received.modify session.wire.opened.connection.number
        (· ++ exchanges.flatMap Exchange.transmissions) =
        session.wire.received ++ [exchanges.flatMap Exchange.transmissions] :=
      modify_append_right session.wire.received [[]] 0 _
    rw [ht.wire, hreceived]
    rfl
  | unattached hc hcall => obtain hcall | hcall | ⟨_, hcall⟩ := hcall <;> cases hcall
  | acted hc ht ha => obtain hcall | hcall | ⟨_, hcall⟩ := ha.call_cases <;> cases hcall

theorem session_detour (session : RemoteSession) (aside : List (List Transmission))
    (hc : ∀ connection, session.connection = some connection →
      connection.number < session.wire.received.length) :
    Detour.session ⟨session.wire.received.length, aside⟩ session =
      { session with
        wire := { session.wire with received := session.wire.received ++ aside } } := by
  have hreceived : Detour.received ⟨session.wire.received.length, aside⟩ session.wire.received =
      session.wire.received ++ aside := by
    rw [Detour.received, List.take_length, List.drop_length, List.append_nil]
  have hconnection : session.connection.map
      (Detour.connection ⟨session.wire.received.length, aside⟩) = session.connection := by
    cases hsome : session.connection with
    | none => rfl
    | some connection =>
      rw [Option.map_some, Detour.connection, Detour.index, if_pos (hc connection hsome)]
  rw [Detour.session, Detour.wire, hreceived, hconnection]

theorem number_lt_of_afterCalls (listening : List Endpoint) (queue : List Reaction)
    (calls : List Call) {connection : Connection} :
    let session := Debugger.afterCalls calls
      ({ wire := { listening, reactions := queue } } : RemoteSession)
    session.connection = some connection → connection.number < session.wire.received.length := by
  intro session hc
  obtain ⟨history, hr⟩ := exists_runs { wire := { listening, reactions := queue } } calls
  exact (((recounts_new listening queue).of_runs hr).current connection hc).opened

theorem configure_of_unsupported {settings : Settings} (h : settings.architecture ≠ "gbz80")
    (h' : settings.architecture ≠ "sm83") (session : RemoteSession) :
    configure settings session =
      (.error (.unsupportedArchitecture settings.architecture), session) := by
  have hlayout : RegisterBlock.layout? settings.architecture = none :=
    if_neg (not_or.mpr ⟨h, h'⟩)
  rw [configure, hlayout]
  rfl

theorem disconnect_disconnect (session : RemoteSession) :
    let released := (disconnect session).2
    released.isAttached = false ∧ disconnect released = (.ok (), released) := by
  intro released
  have hnone : released.connection = none := by
    change (disconnect session).2.connection = none
    unfold disconnect
    cases hc : session.connection with
    | none => exact hc
    | some connection => rfl
  refine ⟨congrArg Option.isSome hnone, ?_⟩
  rw [disconnect, hnone]

end RemoteSession

/-- Only an attach that succeeds and a disconnect tell whether a session is attached. A call that
fails to attach or to configure it takes nothing from it but reactions of the stub. -/
theorem failed_calls_spare_session (listening : List Endpoint) (queue : List Reaction)
    (calls : List Call) :
    let start : RemoteSession := { wire := { listening, reactions := queue } }
    let session := Debugger.afterCalls calls start
    let released := (RemoteSession.disconnect session).2
    (session.isAttached = true ↔ ∃ before address after,
      calls.zip (Debugger.answers calls start) = before ++ (.attach address, .done) :: after ∧
        ∀ entry ∈ after, entry.1 ≠ .disconnect) ∧
    (∀ settings : Settings, settings.architecture ≠ "gbz80" → settings.architecture ≠ "sm83" →
      RemoteSession.configure settings session =
        (.error (.unsupportedArchitecture settings.architecture), session)) ∧
    (∀ address error, (RemoteSession.attach address session).1 = .error error →
      ∃ consumed ≤ 3, ∃ aside, aside.length ≤ 1 ∧
        let after := (RemoteSession.attach address session).2
        let spared := { session with
          wire := { session.wire with reactions := session.wire.reactions.drop consumed } }
        after = { spared with
          wire := { spared.wire with received := session.wire.received ++ aside } } ∧
        ∀ later, Debugger.answers later after = Debugger.answers later spared ∧
          Debugger.afterCalls later after =
            Detour.session ⟨session.wire.received.length, aside⟩
              (Debugger.afterCalls later spared)) ∧
    (released.isAttached = false ∧ RemoteSession.disconnect released = (.ok (), released)) ∧
    (session.isAttached = false →
      (∀ address, RemoteSession.breakAt address session = (.error .notAttached, session)) ∧
        RemoteSession.resume session = (.error .notAttached, session) ∧
        RemoteSession.dump session = (.error .notAttached, session)) := by
  intro start session released
  refine ⟨?_, ?_, ?_, session.disconnect_disconnect, ?_⟩
  · rw [RemoteSession.isAttached_afterCalls]
    constructor
    · rintro (⟨before, _, after, hz, ⟨address, rfl⟩, hn⟩ | ⟨hs, -⟩)
      · exact ⟨before, address, after, hz, hn⟩
      · cases hs
    · rintro ⟨before, address, after, hz, hn⟩
      exact .inl ⟨before, _, after, hz, ⟨address, rfl⟩, hn⟩
  · intro settings h h'
    exact RemoteSession.configure_of_unsupported h h' session
  · intro address error h
    obtain ⟨exchanges, hd⟩ := session.exists_does_attach address
    rw [h] at hd
    obtain ⟨consumed, hconsumed, aside, haside, hafter⟩ := hd.attach_error
    refine ⟨consumed, hconsumed, aside, haside, hafter, ?_⟩
    intro later
    have hnumber : ∀ connection, session.connection = some connection →
        connection.number < session.wire.received.length :=
      fun _ ↦ RemoteSession.number_lt_of_afterCalls listening queue calls
    let spared : RemoteSession := { session with
      wire := { session.wire with reactions := session.wire.reactions.drop consumed } }
    rw [hafter, ← spared.session_detour aside hnumber]
    exact Detour.afterCalls_session le_rfl later
  · intro hn
    have hc := Option.isNone_iff_eq_none.mp (Option.isSome_eq_false_iff.mp hn)
    exact ⟨RemoteSession.breakAt_of_none hc, RemoteSession.resume_of_none hc,
      RemoteSession.dump_of_none hc⟩

/-- The second attach is given up at the halt reason, and the first connection is let go of. -/
example :
    let calls := [.attach defaultEndpoint, .attach defaultEndpoint, .disconnect]
    let session : RemoteSession :=
      { wire := { listening := [⟨"localhost", 1337⟩]
                  reactions := ["", "S05", "1", "", "E01", "OK"].map Reaction.reply } }
    Debugger.answers calls session =
        [.done, .refused (.protocol "unexpected halt reason 'E01'"), .done] ∧
      (Debugger.afterCalls calls session).wire.received =
        [[.features, .haltReason, .isAttached, .detach], [.features, .haltReason]].map
          (·.flatMap fun command ↦ [.command command, .acknowledgement]) :=
  ⟨rfl, rfl⟩

end Lockstep
