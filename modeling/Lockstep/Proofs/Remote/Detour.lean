import Lockstep.Proofs.Checker.Answers
import Lockstep.Proofs.Remote.Calls

namespace Lockstep

section

variable {α : Type}

theorem modify_append_left {first second : List α} {i : Nat} (h : i < first.length) (f : α → α) :
    (first ++ second).modify i f = first.modify i f ++ second := by
  induction first generalizing i with
  | nil => cases h
  | cons a first ih =>
    cases i with
    | zero => rfl
    | succ i =>
      rw [List.cons_append, List.modify_succ_cons, List.modify_succ_cons, List.cons_append,
        ih (Nat.lt_of_succ_lt_succ h)]

theorem modify_append_right (first second : List α) (i : Nat) (f : α → α) :
    (first ++ second).modify (first.length + i) f = first ++ second.modify i f := by
  induction first with
  | nil => simp
  | cons a first ih => simp [Nat.add_right_comm, ih]

end

namespace Debugger

variable {σ τ : Type} [Debugger σ] [Debugger τ]

theorem respond_snd (call : Call) (debugger : σ) :
    (respond call debugger).2 = (perform call debugger).2 := by
  cases call with
  | dump =>
    rw [respond, Answer.ofResult_snd, perform, Attempt.bind_apply]
    rcases dump debugger with ⟨error | text, after⟩ <;> rfl
  | configure | attach | breakAt | resume | disconnect => exact Answer.ofResult_snd _

theorem Alike.afterCalls {R : σ → τ → Prop} (h : Alike R) {debugger : σ} {other : τ}
    (hR : R debugger other) (calls : List Call) :
    R (afterCalls calls debugger) (afterCalls calls other) := by
  induction calls generalizing debugger other with
  | nil => exact hR
  | cons call calls ih =>
    have hcall := (h.respond hR call).2
    rw [respond_snd, respond_snd] at hcall
    exact ih hcall

end Debugger

theorem Wire.connect_of_listening {wire other : Wire} (h : other.listening = wire.listening)
    (address : String) :
    (∃ fault, wire.connect address = .error fault ∧ other.connect address = .error fault) ∨
      (wire.connect address = .ok (wire.opened.wire, wire.opened.connection) ∧
        other.connect address = .ok (other.opened.wire, other.opened.connection)) := by
  rcases wire with ⟨listening, reactions, received⟩
  rcases other with ⟨listening', reactions', received'⟩
  obtain rfl : listening' = listening := h
  unfold Wire.connect
  cases Endpoint.parse address with
  | error fault => exact .inl ⟨fault, rfl, rfl⟩
  | ok endpoint =>
    by_cases hl : endpoint ∈ listening'
    · exact .inr ⟨if_pos hl, if_pos hl⟩
    · exact .inl ⟨_, if_neg hl, if_neg hl⟩

/-- Connections that were opened when there were so many others, with what was sent on them. -/
structure Detour where
  earlier : Nat
  aside : List (List Transmission)

namespace Detour

variable (detour : Detour)

def index (number : Nat) : Nat :=
  if number < detour.earlier then number else number + detour.aside.length

def received (received : List (List Transmission)) : List (List Transmission) :=
  received.take detour.earlier ++ detour.aside ++ received.drop detour.earlier

def wire (wire : Wire) : Wire := { wire with received := detour.received wire.received }

def connection (connection : Connection) : Connection :=
  { connection with number := detour.index connection.number }

def link (link : Link) : Link := ⟨detour.wire link.wire, detour.connection link.connection⟩

def session (session : RemoteSession) : RemoteSession :=
  { session with
    wire := detour.wire session.wire
    connection := session.connection.map detour.connection }

variable {detour}

theorem modify_received {received : List (List Transmission)}
    (h : detour.earlier ≤ received.length) (number : Nat)
    (f : List Transmission → List Transmission) :
    (detour.received received).modify (detour.index number) f =
      detour.received (received.modify number f) := by
  have hlength : (received.take detour.earlier).length = detour.earlier := by
    rw [List.length_take, Nat.min_eq_left h]
  unfold Detour.received index
  by_cases hn : number < detour.earlier
  · rw [if_pos hn, List.append_assoc, modify_append_left (by omega), List.take_modify,
      List.drop_modify_of_lt f number detour.earlier received hn, List.append_assoc]
  · obtain ⟨i, rfl⟩ := Nat.exists_eq_add_of_le (Nat.le_of_not_lt hn)
    have hi : detour.earlier + i + detour.aside.length =
        (received.take detour.earlier ++ detour.aside).length + i := by
      rw [List.length_append]
      omega
    have hkept : (received.take detour.earlier).modify (detour.earlier + i) f =
        received.take detour.earlier := List.modify_eq_self (by omega)
    rw [if_neg hn, hi, modify_append_right, List.take_modify, hkept,
      List.drop_modify_of_ge f _ _ received (Nat.le_add_right ..), Nat.add_sub_cancel_left]

theorem received_concat {received : List (List Transmission)}
    (h : detour.earlier ≤ received.length) (sent : List Transmission) :
    detour.received (received ++ [sent]) = detour.received received ++ [sent] := by
  unfold Detour.received
  rw [List.take_append_of_le_length h, List.drop_append_of_le_length h, List.append_assoc,
    List.append_assoc, List.append_assoc]

theorem connection_write (connection : Connection) :
    (detour.connection connection).write = connection.write.map detour.connection := by
  rcases connection with ⟨number, inbox, _ | ⟨_ | room, fault⟩⟩ <;> rfl

theorem link_receive {link : Link} (h : detour.earlier ≤ link.wire.received.length)
    (transmission : Transmission) :
    (detour.link link).wire.receive (detour.link link).connection.number transmission =
      detour.wire (link.wire.receive link.connection.number transmission) :=
  congrArg (Wire.mk _ _) (modify_received h ..)

variable (detour) in
/-- The first link has made the detour that the second one has not. -/
def Parts (link other : Link) : Prop :=
  detour.earlier ≤ other.wire.received.length ∧ link = detour.link other

variable (detour) in
def Leaves (session other : RemoteSession) : Prop :=
  detour.earlier ≤ other.wire.received.length ∧ session = detour.session other

open Attempt (Alike)

theorem alike_transmit (transmission : Transmission) :
    Alike detour.Parts (Link.transmit transmission) (Link.transmit transmission) := by
  rintro _ link ⟨h, rfl⟩
  have hwrite : (detour.link link).connection.write = _ := connection_write link.connection
  cases hw : link.connection.write with
  | error fault =>
    rw [hw] at hwrite
    rw [Link.transmit_of_broken hw, Link.transmit_of_broken hwrite]
    exact ⟨rfl, h, rfl⟩
  | ok written =>
    rw [hw] at hwrite
    rw [Link.transmit_of_written hw, Link.transmit_of_written hwrite]
    refine ⟨rfl, h.trans (List.length_modify ..).ge, ?_⟩
    exact congrArg (Link.mk · _) (link_receive h transmission)

theorem alike_send (command : Command) :
    Alike detour.Parts (Link.send command) (Link.send command) := by
  apply (alike_transmit (.command command)).bind
  rintro ⟨⟩ _ link ⟨h, rfl⟩
  exact ⟨rfl, h, rfl⟩

theorem alike_read : Alike detour.Parts Link.read Link.read := by
  rintro _ link ⟨h, rfl⟩
  exact ⟨rfl, h, rfl⟩

theorem alike_receive : Alike detour.Parts Link.receive Link.receive := by
  apply alike_read.bind
  intro reply
  exact (alike_transmit .acknowledgement).bind fun _ ↦ .pure reply

theorem alike_request (command : Command) :
    Alike detour.Parts (Link.request command) (Link.request command) :=
  (alike_send command).bind fun _ ↦ alike_receive

theorem alike_requestOk (command : Command) :
    Alike detour.Parts (Link.requestOk command) (Link.requestOk command) := by
  apply (alike_request command).bind
  intro reply
  split
  · exact .pure ()
  · exact .throw _

theorem alike_handshake : Alike detour.Parts Link.handshake Link.handshake := by
  apply (alike_request .features).bind
  intro features
  apply (alike_request .haltReason).bind
  intro halt
  cases StopReply.parse? halt with
  | none => exact .throw _
  | some reason => exact (alike_request .isAttached).bind fun _ ↦ .pure ()

theorem alike_go (limit : Option Elapsed) :
    Alike detour.Parts (Link.go limit) (Link.go limit) := by
  apply (alike_send .go).bind
  intro _
  have hreply : Alike detour.Parts (Link.awaitReply limit) (Link.awaitReply limit) := by
    rcases limit with _ | span
    · exact alike_receive
    · unfold Link.awaitReply
      dsimp only
      split
      · exact .throw _
      · exact alike_receive.tryCatch fun error ↦ .throw _
  apply hreply.bind
  intro reply
  cases StopReply.parse? reply with
  | none => exact .throw _
  | some stop => exact .pure stop

theorem alike_onConnection {α : Type} {action : Attempt SessionError Link α}
    (h : Alike detour.Parts action action) :
    Alike detour.Leaves (RemoteSession.onConnection action) (RemoteSession.onConnection action) := by
  rintro _ session ⟨hle, rfl⟩
  cases hc : session.connection with
  | none =>
    have hd : (detour.session session).connection = none := congrArg (Option.map _) hc
    rw [RemoteSession.onConnection_of_none _ hc, RemoteSession.onConnection_of_none _ hd]
    exact ⟨rfl, hle, rfl⟩
  | some connection =>
    have hd : (detour.session session).connection = some (detour.connection connection) :=
      congrArg (Option.map _) hc
    obtain ⟨hresult, hlink, hafter⟩ := h _ ⟨session.wire, connection⟩ ⟨hle, rfl⟩
    rw [RemoteSession.onConnection_of_some _ hc, RemoteSession.onConnection_of_some _ hd]
    refine ⟨hresult, hlink, ?_⟩
    change ({ detour.session session with
      wire := (action (detour.link ⟨session.wire, connection⟩)).2.wire
      connection := some (action (detour.link ⟨session.wire, connection⟩)).2.connection } :
        RemoteSession) = _
    rw [hafter]
    rfl

theorem opened_wire {wire : Wire} (h : detour.earlier ≤ wire.received.length) :
    (detour.wire wire).opened = detour.link wire.opened := by
  have hnumber : (detour.received wire.received).length = detour.index wire.received.length := by
    rw [index, if_neg (Nat.not_lt.mpr h)]
    simp only [Detour.received, List.length_append, List.length_take, List.length_drop]
    omega
  have hreceived : (detour.wire wire).received ++ [[]] = detour.received (wire.received ++ [[]]) :=
    (received_concat h []).symm
  unfold Wire.opened
  rw [hreceived]
  exact congrArg (Link.mk _ <| Connection.mk · _ _) hnumber

theorem alike_attach (address : String) :
    Alike detour.Leaves (RemoteSession.attach address) (RemoteSession.attach address) := by
  rintro _ session ⟨hle, rfl⟩
  have hlistening : (detour.wire session.wire).listening = session.wire.listening := rfl
  have hwire : (detour.session session).wire = detour.wire session.wire := rfl
  unfold RemoteSession.attach
  rw [hwire]
  obtain ⟨fault, hc, hd⟩ | ⟨hc, hd⟩ := Wire.connect_of_listening hlistening address
  · rw [hc, hd]
    exact ⟨rfl, hle, rfl⟩
  · rw [hc, hd, opened_wire hle]
    have hopened : detour.earlier ≤ session.wire.opened.wire.received.length :=
      hle.trans (List.prefix_append _ _).length_le
    rcases hh : Link.handshake (detour.link session.wire.opened) with ⟨error | ⟨⟩, finish⟩
    · obtain ⟨finish, hf, hlink, rfl⟩ := alike_handshake.apply ⟨hopened, rfl⟩ hh
      dsimp only
      rw [hf, hh]
      exact ⟨rfl, hlink, rfl⟩
    · obtain ⟨finish, hf, hlink, rfl⟩ := alike_handshake.apply ⟨hopened, rfl⟩ hh
      dsimp only
      rw [hf, hh]
      exact ⟨rfl, hlink, rfl⟩

theorem alike_configure (settings : Settings) :
    Alike detour.Leaves (RemoteSession.configure settings) (RemoteSession.configure settings) := by
  rintro _ session ⟨hle, rfl⟩
  unfold RemoteSession.configure
  cases RegisterBlock.layout? settings.architecture with
  | none => exact ⟨rfl, hle, rfl⟩
  | some layout => exact ⟨rfl, hle, rfl⟩

theorem alike_breakAt (address : Word) :
    Alike detour.Leaves (RemoteSession.breakAt address) (RemoteSession.breakAt address) := by
  apply (alike_onConnection (alike_requestOk _)).bind
  rintro ⟨⟩ _ session ⟨hle, rfl⟩
  exact ⟨rfl, hle, rfl⟩

theorem alike_clearPending :
    Alike detour.Leaves RemoteSession.clearPending RemoteSession.clearPending := by
  apply Alike.get_bind
  rintro _ session ⟨hle, rfl⟩
  have hpending : (detour.session session).pending = session.pending := rfl
  rw [hpending]
  cases session.pending with
  | none => exact ⟨rfl, hle, rfl⟩
  | some address =>
    exact alike_onConnection (alike_requestOk _) _ { session with pending := none } ⟨hle, rfl⟩

theorem alike_resume : Alike detour.Leaves RemoteSession.resume RemoteSession.resume := by
  apply Alike.get_bind
  rintro _ session ⟨hle, rfl⟩
  have hgo : Alike detour.Leaves _ _ := alike_onConnection (alike_go session.settings.resumeLimit)
  refine hgo.bind (fun stop ↦ ?_) _ session ⟨hle, rfl⟩
  cases stop with
  | signal code => exact alike_clearPending
  | exited status => exact .throw _
  | terminated signal => exact .throw _

theorem alike_dump : Alike detour.Leaves RemoteSession.dump RemoteSession.dump := by
  apply (alike_onConnection (alike_request .registers)).bind
  intro reply
  apply Alike.get_bind
  rintro _ session ⟨hle, rfl⟩
  rw [Attempt.ofExcept_apply, Attempt.ofExcept_apply]
  exact ⟨rfl, hle, rfl⟩

theorem alike_disconnect :
    Alike detour.Leaves RemoteSession.disconnect RemoteSession.disconnect := by
  rintro _ session ⟨hle, rfl⟩
  unfold RemoteSession.disconnect
  cases hc : session.connection with
  | none =>
    have hd : (detour.session session).connection = none := congrArg (Option.map _) hc
    rw [hd]
    exact ⟨rfl, hle, rfl⟩
  | some connection =>
    have hd : (detour.session session).connection = some (detour.connection connection) :=
      congrArg (Option.map _) hc
    rw [hd]
    rcases hr : Link.requestOk .detach (detour.link ⟨session.wire, connection⟩) with ⟨result, finish⟩
    obtain ⟨finish, hf, hlink, rfl⟩ := (alike_requestOk .detach).apply ⟨hle, rfl⟩ hr
    have hother : Link.requestOk .detach ⟨(detour.session session).wire,
        detour.connection connection⟩ = (result, detour.link finish) := hr
    dsimp only
    rw [hf, hother]
    exact ⟨rfl, hlink, rfl⟩

variable (detour) in
theorem alike_sessions : Debugger.Alike detour.Leaves where
  configure := alike_configure
  attach := alike_attach
  breakAt := alike_breakAt
  resume := alike_resume
  dump := alike_dump
  disconnect := alike_disconnect

/-- A detour makes no difference to the answers, and it stays the only difference. -/
theorem afterCalls_session {session : RemoteSession}
    (h : detour.earlier ≤ session.wire.received.length) (calls : List Call) :
    Debugger.answers calls (detour.session session) = Debugger.answers calls session ∧
      Debugger.afterCalls calls (detour.session session) =
        detour.session (Debugger.afterCalls calls session) :=
  ⟨(alike_sessions detour).sameAnswers ⟨h, rfl⟩ calls,
    ((alike_sessions detour).afterCalls ⟨h, rfl⟩ calls).2⟩

end Detour

end Lockstep
