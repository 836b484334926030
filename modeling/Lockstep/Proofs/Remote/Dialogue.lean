import Lockstep.Proofs.Attempt
import Lockstep.Proofs.Remote.Framing
import Lockstep.Remote.Link
import Mathlib.Data.List.Forall2

namespace Lockstep

/-- The bytes of a stub in answer to so many packets. Behind its last reaction it hangs up. -/
def Reaction.stream : (packets : Nat) → List Reaction → List UInt8
  | 0, _ => []
  | _ + 1, [] => []
  | packets + 1, reaction :: reactions =>
    reaction.bytes ++ if reaction.failure = some .wouldBlock then stream packets reactions else []

theorem modify_append_append {α : Type} (lists : List (List α)) (n : Nat) (first second : List α) :
    (lists.modify n (· ++ first)).modify n (· ++ second) =
      lists.modify n (· ++ (first ++ second)) := by
  rw [List.modify_modify_eq]
  apply congrArg (lists.modify n)
  funext list
  exact List.append_assoc ..

namespace Connection

def leave (connection : Connection) (unread : List UInt8) : Connection :=
  { connection with inbox := { connection.inbox with bytes := unread } }

theorem exists_breaks_of_write {connection written : Connection}
    (h : connection.write = .ok written) : ∃ breaks, written = { connection with breaks } := by
  unfold write at h
  split at h
  · exact ⟨connection.breaks, (Except.ok.inj h).symm⟩
  · cases h
  · exact ⟨_, (Except.ok.inj h).symm⟩

end Connection

namespace Link

variable {link mid finish : Link} {command : Command} {reply : String}

def requests (commands : List Command) : Attempt SessionError Link (List String) :=
  commands.mapM request

theorem requests_nil_iff {replies : List String} :
    requests [] link = (.ok replies, finish) ↔ replies = [] ∧ finish = link := by
  rw [requests, List.mapM_nil, Attempt.pure_apply]
  simp [eq_comm]

theorem requests_cons_iff {commands : List Command} {replies : List String} :
    requests (command :: commands) link = (.ok replies, finish) ↔
      ∃ reply rest mid, request command link = (.ok reply, mid) ∧
        requests commands mid = (.ok rest, finish) ∧ replies = reply :: rest := by
  rw [requests, List.mapM_cons]
  simp only [Attempt.bind_eq_ok_iff, Attempt.pure_apply, Attempt.pair_eq_iff, Except.ok.injEq]
  constructor
  · rintro ⟨reply, mid, hr, rest, finish, hs, rfl, rfl⟩
    exact ⟨reply, rest, mid, hr, hs, rfl⟩
  · rintro ⟨reply, rest, mid, hr, hs, rfl⟩
    exact ⟨reply, mid, hr, rest, finish, hs, rfl, rfl⟩

theorem requests_singleton_iff :
    requests [command] link = (.ok [reply], finish) ↔ request command link = (.ok reply, finish) := by
  simp only [requests_cons_iff, requests_nil_iff]
  constructor
  · rintro ⟨_, _, _, h, ⟨rfl, rfl⟩, he⟩
    cases he
    exact h
  · intro h
    exact ⟨reply, [], finish, h, ⟨rfl, rfl⟩, rfl⟩

theorem requests_append_iff {first second : List Command} {replies : List String} :
    requests (first ++ second) link = (.ok replies, finish) ↔
      ∃ earlier later mid, requests first link = (.ok earlier, mid) ∧
        requests second mid = (.ok later, finish) ∧ replies = earlier ++ later := by
  induction first generalizing link replies with
  | nil =>
    simp only [List.nil_append, requests_nil_iff]
    constructor
    · intro h
      exact ⟨[], replies, link, ⟨rfl, rfl⟩, h, rfl⟩
    · rintro ⟨earlier, later, mid, ⟨rfl, rfl⟩, h, rfl⟩
      exact h
  | cons command first ih =>
    simp only [List.cons_append, requests_cons_iff, ih]
    constructor
    · rintro ⟨reply, rest, next, hr, ⟨earlier, later, mid, hf, hs, rfl⟩, rfl⟩
      exact ⟨reply :: earlier, later, mid, ⟨reply, earlier, next, hr, hf, rfl⟩, hs, rfl⟩
    · rintro ⟨earlier', later, mid, ⟨reply, earlier, next, hr, hf, rfl⟩, hs, rfl⟩
      exact ⟨reply, earlier ++ later, next, hr, ⟨earlier, later, mid, hf, hs, rfl⟩, rfl⟩

theorem length_of_requests {commands : List Command} {replies : List String}
    (h : requests commands link = (.ok replies, finish)) : replies.length = commands.length := by
  induction commands generalizing link replies with
  | nil =>
    obtain ⟨rfl, -⟩ := requests_nil_iff.mp h
    rfl
  | cons command commands ih =>
    obtain ⟨reply, rest, mid, -, hs, rfl⟩ := requests_cons_iff.mp h
    simp [ih hs]

section

variable {written : Connection} {fault : Fault}

theorem transmit_of_written {transmission : Transmission}
    (h : link.connection.write = .ok written) :
    transmit transmission link =
      (.ok (), ⟨link.wire.receive link.connection.number transmission, written⟩) := by
  rw [transmit, h]

theorem transmit_of_broken {transmission : Transmission} (h : link.connection.write = .error fault) :
    transmit transmission link = (.error (.io fault), link) := by
  rw [transmit, h]

theorem transmit_eq_ok_iff {transmission : Transmission} {done : Unit} :
    transmit transmission link = (.ok done, finish) ↔
      ∃ written, link.connection.write = .ok written ∧
        finish = ⟨link.wire.receive link.connection.number transmission, written⟩ := by
  cases h : link.connection.write with
  | error fault => simp [transmit_of_broken h]
  | ok written => simp [transmit_of_written h, eq_comm]

theorem send_of_written (h : link.connection.write = .ok written) :
    send command link =
      (.ok (), react ⟨link.wire.receive link.connection.number (.command command), written⟩) := by
  rw [send, Attempt.bind_apply, transmit_of_written h]
  rfl

theorem send_of_broken (h : link.connection.write = .error fault) :
    send command link = (.error (.io fault), link) := by
  rw [send, Attempt.bind_apply, transmit_of_broken h]

theorem send_eq_ok_iff {done : Unit} :
    send command link = (.ok done, finish) ↔
      ∃ written, link.connection.write = .ok written ∧
        finish = react ⟨link.wire.receive link.connection.number (.command command), written⟩ := by
  cases h : link.connection.write with
  | error fault => simp [send_of_broken h]
  | ok written => simp [send_of_written h, eq_comm]

end

theorem read_eq_ok_iff :
    read link = (.ok reply, finish) ↔
      ∃ packet unread, Frame.IsPacket packet reply ∧
        link.connection.inbox.bytes = packet ++ unread ∧
        finish = ⟨link.wire, link.connection.leave unread⟩ := by
  simp only [read, Frame.read]
  rcases hread : Frame.readBytes (Frame.ending link.connection.inbox.failure)
    link.connection.inbox.bytes with ⟨error | text, rest⟩
  · constructor
    · intro h
      simp at h
    · rintro ⟨packet, unread, hp, hb, -⟩
      rw [Frame.readBytes_eq_ok_iff.mpr ⟨packet, hp, hb⟩] at hread
      simp at hread
  · simp only [Attempt.pair_eq_iff, Except.ok.injEq]
    constructor
    · rintro ⟨rfl, rfl⟩
      obtain ⟨packet, hp, hb⟩ := Frame.readBytes_eq_ok_iff.mp hread
      exact ⟨packet, rest, hp, hb, rfl⟩
    · rintro ⟨packet, unread, hp, hb, rfl⟩
      rw [Frame.readBytes_eq_ok_iff.mpr ⟨packet, hp, hb⟩] at hread
      obtain ⟨ht, rfl⟩ := Prod.mk.inj hread
      exact ⟨(Except.ok.inj ht).symm, rfl⟩

section

variable {inbox : Source}

theorem receive_of_refused {error : SessionError}
    (h : Frame.read link.connection.inbox = (.error error, inbox)) :
    receive link = (.error error, ⟨link.wire, { link.connection with inbox }⟩) := by
  rw [receive, Attempt.bind_apply, read, h]

theorem receive_of_unacknowledged {fault : Fault}
    (h : Frame.read link.connection.inbox = (.ok reply, inbox))
    (ha : Connection.write { link.connection with inbox } = .error fault) :
    receive link = (.error (.io fault), ⟨link.wire, { link.connection with inbox }⟩) := by
  rw [receive, Attempt.bind_apply, read, h]
  dsimp only
  rw [Attempt.bind_apply, transmit_of_broken ha]

theorem receive_of_acknowledged {acknowledged : Connection}
    (h : Frame.read link.connection.inbox = (.ok reply, inbox))
    (ha : Connection.write { link.connection with inbox } = .ok acknowledged) :
    receive link =
      (.ok reply, ⟨link.wire.receive link.connection.number .acknowledgement, acknowledged⟩) := by
  rw [receive, Attempt.bind_apply, read, h]
  dsimp only
  rw [Attempt.bind_apply, transmit_of_written ha]
  rfl

end

theorem receive_eq_ok_iff :
    receive link = (.ok reply, finish) ↔
      ∃ packet unread acknowledged, Frame.IsPacket packet reply ∧
        link.connection.inbox.bytes = packet ++ unread ∧
        (link.connection.leave unread).write = .ok acknowledged ∧
        finish = ⟨link.wire.receive link.connection.number .acknowledgement, acknowledged⟩ := by
  simp only [receive, Attempt.bind_eq_ok_iff, read_eq_ok_iff, transmit_eq_ok_iff,
    Attempt.pure_apply, Attempt.pair_eq_iff, Except.ok.injEq]
  constructor
  · rintro ⟨_, _, ⟨packet, unread, hp, hb, rfl⟩, ⟨⟩, _, ⟨acknowledged, hw, rfl⟩, rfl, rfl⟩
    exact ⟨packet, unread, acknowledged, hp, hb, hw, rfl⟩
  · rintro ⟨packet, unread, acknowledged, hp, hb, hw, rfl⟩
    exact ⟨reply, _, ⟨packet, unread, hp, hb, rfl⟩, ⟨⟩, _, ⟨acknowledged, hw, rfl⟩, rfl, rfl⟩

/-- The connection after a packet was sent and the reaction to it came in. -/
def heard (link : Link) (written : Connection) : Connection :=
  written.hear (link.wire.reactions.headD .hangUp)

def answered (link : Link) (command : Command) : Wire :=
  { link.wire with
    reactions := link.wire.reactions.tail
    received := link.wire.received.modify link.connection.number
      (· ++ [.command command, .acknowledgement]) }

theorem request_eq_ok_iff :
    request command link = (.ok reply, finish) ↔
      ∃ written packet unread acknowledged, link.connection.write = .ok written ∧
        Frame.IsPacket packet reply ∧ (link.heard written).inbox.bytes = packet ++ unread ∧
        ((link.heard written).leave unread).write = .ok acknowledged ∧
        finish = ⟨link.answered command, acknowledged⟩ := by
  have hreceived : ∀ written, link.connection.write = .ok written →
      (react ⟨link.wire.receive link.connection.number (.command command), written⟩).wire.receive
        written.number .acknowledgement = link.answered command := by
    intro written hw
    obtain ⟨breaks, rfl⟩ := Connection.exists_breaks_of_write hw
    simp only [react, Wire.receive, modify_append_append]
    rfl
  rw [request, Attempt.bind_eq_ok_iff]
  simp only [send_eq_ok_iff, receive_eq_ok_iff]
  constructor
  · rintro ⟨⟨⟩, _, ⟨written, hw, rfl⟩, packet, unread, acknowledged, hp, hb, ha, rfl⟩
    exact ⟨written, packet, unread, acknowledged, hw, hp, hb, ha,
      congrArg (Link.mk · _) (hreceived written hw)⟩
  · rintro ⟨written, packet, unread, acknowledged, hw, hp, hb, ha, rfl⟩
    exact ⟨⟨⟩, _, ⟨written, hw, rfl⟩, packet, unread, acknowledged, hp, hb, ha,
      congrArg (Link.mk · _) (hreceived written hw).symm⟩

/-- The bytes still to come on a connection in answer to so many packets. -/
def arriving (link : Link) (packets : Nat) : List UInt8 :=
  if link.connection.isOpen then Reaction.stream packets link.wire.reactions else []

theorem arriving_zero (link : Link) : link.arriving 0 = [] := by
  simp [arriving, Reaction.stream]

theorem packet_of_request (h : request command link = (.ok reply, finish)) (packets : Nat) :
    ∃ packet, Frame.IsPacket packet reply ∧
      link.connection.inbox.bytes ++ link.arriving (packets + 1) =
        packet ++ (finish.connection.inbox.bytes ++ finish.arriving packets) := by
  obtain ⟨written, packet, unread, acknowledged, hw, hp, hb, ha, rfl⟩ := request_eq_ok_iff.mp h
  obtain ⟨breaks, rfl⟩ := Connection.exists_breaks_of_write hw
  obtain ⟨breaks', rfl⟩ := Connection.exists_breaks_of_write ha
  refine ⟨packet, hp, ?_⟩
  rw [← List.append_assoc]
  change _ = (packet ++ unread) ++ _
  rw [← hb]
  rcases link with ⟨⟨listening, reactions, received⟩, ⟨number, ⟨bytes, failure⟩, _⟩⟩
  by_cases hf : failure = some .wouldBlock
  · cases reactions with
    | nil =>
      simp [arriving, heard, Connection.hear, Connection.leave, Connection.isOpen,
        Reaction.stream, Reaction.hangUp, hf]
    | cons reaction reactions =>
      simp [arriving, answered, heard, Connection.hear, Connection.leave, Connection.isOpen,
        Reaction.stream, hf]
  · simp [arriving, heard, Connection.hear, Connection.leave, Connection.isOpen, hf]

/-- What a client has read in a number of requests is one packet for each reply. -/
theorem packets_of_requests {commands : List Command} {replies : List String}
    (h : requests commands link = (.ok replies, finish)) :
    ∃ packets, List.Forall₂ Frame.IsPacket packets replies ∧
      link.connection.inbox.bytes ++ link.arriving commands.length =
        packets.flatten ++ finish.connection.inbox.bytes := by
  induction commands generalizing link replies with
  | nil =>
    obtain ⟨rfl, rfl⟩ := requests_nil_iff.mp h
    exact ⟨[], .nil, by simp [arriving_zero]⟩
  | cons command commands ih =>
    obtain ⟨reply, rest, mid, hr, hs, rfl⟩ := requests_cons_iff.mp h
    obtain ⟨packet, hp, hb⟩ := packet_of_request hr commands.length
    obtain ⟨packets, hps, hbs⟩ := ih hs
    refine ⟨packet :: packets, .cons hp hps, ?_⟩
    calc link.connection.inbox.bytes ++ link.arriving (command :: commands).length
        = packet ++ (mid.connection.inbox.bytes ++ mid.arriving commands.length) := hb
      _ = packet ++ (packets.flatten ++ finish.connection.inbox.bytes) := congrArg _ hbs
      _ = (packet :: packets).flatten ++ finish.connection.inbox.bytes := by simp

theorem wire_of_request (h : request command link = (.ok reply, finish)) :
    finish.connection.number = link.connection.number ∧ finish.wire = link.answered command := by
  obtain ⟨written, packet, unread, acknowledged, hw, -, -, ha, rfl⟩ := request_eq_ok_iff.mp h
  obtain ⟨breaks, rfl⟩ := Connection.exists_breaks_of_write hw
  obtain ⟨breaks', rfl⟩ := Connection.exists_breaks_of_write ha
  exact ⟨rfl, rfl⟩

theorem wire_of_requests {commands : List Command} {replies : List String}
    (h : requests commands link = (.ok replies, finish)) :
    finish.connection.number = link.connection.number ∧
      finish.wire =
        { link.wire with
          reactions := link.wire.reactions.drop commands.length
          received := link.wire.received.modify link.connection.number
            (· ++ commands.flatMap fun command ↦ [.command command, .acknowledgement]) } := by
  induction commands generalizing link replies with
  | nil =>
    obtain ⟨rfl, rfl⟩ := requests_nil_iff.mp h
    have hm : (fun sent : List Transmission ↦ sent) = id := rfl
    simp [hm]
  | cons command commands ih =>
    obtain ⟨reply, rest, mid, hr, hs, rfl⟩ := requests_cons_iff.mp h
    obtain ⟨hnumber, hwire⟩ := wire_of_request hr
    obtain ⟨hn, hw⟩ := ih hs
    refine ⟨hn.trans hnumber, ?_⟩
    rw [hw, hnumber, hwire]
    simp only [answered, modify_append_append, List.drop_tail, List.length_cons,
      List.flatMap_cons]

end Link

end Lockstep
