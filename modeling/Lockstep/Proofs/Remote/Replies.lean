import Lockstep.Proofs.Register.Word
import Lockstep.Proofs.Remote.Dialogue

namespace Lockstep

theorem Command.breakpoint_eq (letter : Char) (address : Word) :
    Command.breakpoint letter address =
      String.ofList [letter, '1', ','] ++ String.ofList (Nat.toDigits 16 address.toNat) ++ ",1" := by
  rw [Command.breakpoint, Word.shortText_eq_toDigits, ← String.toList_inj]
  simp

/-- What comes of a command that has no answer but success, by what is read after it. -/
def Command.judge (command : Command) : Except SessionError String → Except SessionError Unit
  | .error error => .error error
  | .ok reply => if reply = "OK" then .ok () else .error (.rejected command.text reply)

/-- What silence comes to, and any other error, when there may be a limit for the wait. -/
def Elapsed.blame (limit : Option Elapsed) (error : SessionError) : SessionError :=
  match limit with
  | none => error
  | some span => if error = .io .wouldBlock then .timeout span else error

def StopReply.judge (limit : Option Elapsed) :
    Except SessionError String → Except SessionError StopReply
  | .error error => .error (Elapsed.blame limit error)
  | .ok reply =>
    match StopReply.parse? reply with
    | some stop => .ok stop
    | none => .error (.protocol s!"unexpected stop reply '{reply}'")

namespace Link

variable {link finish : Link} {command : Command} {limit : Option Elapsed}

theorem requestOk_apply (command : Command) (link : Link) :
    requestOk command link =
      (command.judge (request command link).1, (request command link).2) := by
  rw [requestOk, Attempt.bind_apply]
  rcases request command link with ⟨error | reply, next⟩
  · rfl
  · dsimp only [Command.judge]
    split <;> rfl

theorem awaitReply_apply (hz : limit ≠ some ⟨0⟩) (link : Link) :
    awaitReply limit link =
      ((receive link).1.mapError (Elapsed.blame limit), (receive link).2) := by
  rcases limit with _ | span
  · rw [awaitReply]
    rcases receive link with ⟨error | reply, next⟩ <;> rfl
  · have hn : span.nanos ≠ 0 := by
      rcases span with ⟨nanos⟩
      intro he
      cases he
      exact hz rfl
    rw [awaitReply, if_neg hn, Attempt.tryCatch_apply]
    rcases receive link with ⟨error | reply, next⟩ <;> rfl

theorem go_of_unsent {error : SessionError} (h : send .go link = (.error error, finish)) :
    go limit link = (.error error, finish) := by
  rw [go, Attempt.bind_apply, h]

theorem go_of_sent {sent : Link} (hz : limit ≠ some ⟨0⟩) (h : send .go link = (.ok (), sent)) :
    go limit link = (StopReply.judge limit (receive sent).1, (receive sent).2) := by
  rw [go, Attempt.bind_apply, h]
  dsimp only
  rw [Attempt.bind_apply, awaitReply_apply hz]
  rcases receive sent with ⟨error | reply, next⟩
  · rfl
  · dsimp only [Except.mapError, StopReply.judge]
    cases StopReply.parse? reply <;> rfl

theorem request_of_unsent {error : SessionError} (h : send command link = (.error error, finish)) :
    request command link = (.error error, finish) := by
  rw [request, Attempt.bind_apply, h]

theorem request_of_sent {sent : Link} (h : send command link = (.ok (), sent)) :
    request command link = receive sent := by
  rw [request, Attempt.bind_apply, h]

theorem requestOk_eq_ok_iff :
    requestOk command link = (.ok (), finish) ↔ request command link = (.ok "OK", finish) := by
  rw [requestOk, Attempt.bind_eq_ok_iff]
  constructor
  · rintro ⟨reply, next, hr, hs⟩
    split at hs
    · rename_i ho
      obtain ⟨-, rfl⟩ := Attempt.pair_eq_iff.mp hs
      rw [hr, ho]
    · simp [Attempt.throw_apply] at hs
  · intro h
    exact ⟨"OK", finish, h, rfl⟩

theorem handshake_eq_ok_iff :
    handshake link = (.ok (), finish) ↔
      ∃ features halt attached reply,
        requests [.features, .haltReason, .isAttached] link =
          (.ok [features, halt, attached], finish) ∧ StopReply.parse? halt = some reply := by
  simp only [handshake, Attempt.bind_eq_ok_iff, requests_cons_iff, requests_nil_iff]
  constructor
  · rintro ⟨features, s₁, hf, halt, s₂, hh, hs⟩
    cases hp : StopReply.parse? halt with
    | none =>
      rw [hp] at hs
      simp [Attempt.throw_apply] at hs
    | some reply =>
      rw [hp] at hs
      obtain ⟨attached, s₃, ha, hs⟩ := Attempt.bind_eq_ok_iff.mp hs
      obtain ⟨-, rfl⟩ := Attempt.pair_eq_iff.mp hs
      exact ⟨features, halt, attached, reply,
        ⟨_, _, s₁, hf, ⟨_, _, s₂, hh, ⟨_, _, s₃, ha, ⟨rfl, rfl⟩, rfl⟩, rfl⟩, rfl⟩, hp⟩
  · rintro ⟨features, halt, attached, reply, ⟨f, r₁, s₁, hf, ⟨h, r₂, s₂, hh,
      ⟨a, r₃, s₃, ha, ⟨rfl, rfl⟩, rfl⟩, rfl⟩, he⟩, hp⟩
    obtain ⟨rfl, rfl, rfl⟩ : features = f ∧ halt = h ∧ attached = a := by simpa using he
    refine ⟨features, s₁, hf, halt, s₂, hh, ?_⟩
    rw [hp]
    exact Attempt.bind_eq_ok_iff.mpr ⟨attached, finish, ha, rfl⟩

theorem awaitReply_eq_ok_iff {limit : Option Elapsed} {reply : String} :
    awaitReply limit link = (.ok reply, finish) ↔
      limit ≠ some ⟨0⟩ ∧ receive link = (.ok reply, finish) := by
  rcases limit with _ | ⟨⟨nanos⟩⟩
  · simp [awaitReply]
  · by_cases hz : nanos = 0
    · simp [awaitReply, hz, Attempt.throw_apply]
    · simp only [awaitReply, hz, if_false, Attempt.tryCatch_apply, Attempt.throw_apply]
      rcases receive link with ⟨error | reply', after⟩ <;> simp [hz]

theorem go_eq_ok_iff {limit : Option Elapsed} {stop : StopReply} :
    go limit link = (.ok stop, finish) ↔ limit ≠ some ⟨0⟩ ∧
      ∃ reply, request .go link = (.ok reply, finish) ∧ StopReply.parse? reply = some stop := by
  simp only [go, request, Attempt.bind_eq_ok_iff, awaitReply_eq_ok_iff]
  constructor
  · rintro ⟨⟨⟩, sent, hs, reply, next, ⟨hl, hr⟩, hp⟩
    cases he : StopReply.parse? reply with
    | none =>
      rw [he] at hp
      simp [Attempt.throw_apply] at hp
    | some stop' =>
      rw [he] at hp
      obtain ⟨ho, rfl⟩ := Attempt.pair_eq_iff.mp hp
      exact ⟨hl, reply, ⟨⟨⟩, sent, hs, hr⟩, by rw [he, Except.ok.inj ho]⟩
  · rintro ⟨hl, reply, ⟨⟨⟩, sent, hs, hr⟩, hp⟩
    refine ⟨⟨⟩, sent, hs, reply, finish, ⟨hl, hr⟩, ?_⟩
    rw [hp]
    rfl

end Link

/-- The stub answers with a text as one packet, behind any number of acknowledgements. -/
def Reaction.Answers (reaction : Reaction) (reply : String) : Prop :=
  ∃ acks, reaction = { bytes := List.replicate acks Frame.plus ++ Text.utf8 (Frame.ofText reply) }

theorem Reaction.answers_reply (reply : String) : (Reaction.reply reply).Answers reply := by
  have hp : Text.utf8 "+" = [Frame.plus] := by decide
  exact ⟨1, by rw [Reaction.reply, Text.utf8_append, hp]; rfl⟩

def Wire.opened (wire : Wire) : Link :=
  ⟨{ wire with received := wire.received ++ [[]] },
    ⟨wire.received.length, ⟨[], some .wouldBlock⟩, none⟩⟩

theorem Wire.connect_eq_ok_iff {wire : Wire} {address : String} {link : Link} :
    wire.connect address = .ok (link.wire, link.connection) ↔
      (∃ endpoint ∈ wire.listening, Endpoint.parse address = .ok endpoint) ∧ link = wire.opened := by
  unfold Wire.connect
  cases hp : Endpoint.parse address with
  | error fault => simp
  | ok endpoint =>
    by_cases hl : endpoint ∈ wire.listening
    · obtain ⟨wire', connection⟩ := link
      simp [hl, opened, eq_comm]
    · simp [hl]

namespace Link

/-- Everything that has arrived was read, and more may come. -/
structure IsQuiet (link : Link) : Prop where
  inbox : link.connection.inbox = ⟨[], some .wouldBlock⟩
  breaks : link.connection.breaks = none

theorem isQuiet_opened (wire : Wire) : wire.opened.IsQuiet := ⟨rfl, rfl⟩

variable {link : Link} {reply : String} {reaction : Reaction} {reactions answers : List Reaction}

theorem IsQuiet.write_eq (hq : link.IsQuiet) : link.connection.write = .ok link.connection := by
  rw [Connection.write, hq.breaks]

theorem IsQuiet.heard_eq {bytes : List UInt8} (hq : link.IsQuiet)
    (hr : link.wire.reactions = { bytes } :: reactions) :
    link.heard link.connection = ⟨link.connection.number, ⟨bytes, some .wouldBlock⟩, none⟩ := by
  simp [heard, hr, Connection.hear, Connection.isOpen, hq.inbox, hq.breaks]

theorem request_of_answers (command : Command) (hq : link.IsQuiet)
    (hr : link.wire.reactions = reaction :: reactions) (ha : reaction.Answers reply)
    (hf : Frame.Fits reply) :
    ∃ next, request command link = (.ok reply, next) ∧ next.IsQuiet ∧
      next.wire.reactions = reactions := by
  obtain ⟨acks, rfl⟩ := ha
  have hheard := hq.heard_eq hr
  refine ⟨⟨link.answered command, ⟨link.connection.number, ⟨[], some .wouldBlock⟩, none⟩⟩,
    ?_, ⟨rfl, rfl⟩, ?_⟩
  · refine request_eq_ok_iff.mpr
      ⟨_, _, [], _, hq.write_eq, Frame.isPacket_ofText acks hf, ?_, ?_, rfl⟩
    · rw [hheard, List.append_nil]
    · rw [hheard]
      rfl
  · simp [answered, hr]

theorem request_of_long (command : Command) (hq : link.IsQuiet)
    (hr : link.wire.reactions = reaction :: reactions) (ha : reaction.Answers reply)
    (hn : '#' ∉ reply.toList) (hl : Frame.maxBody < reply.utf8ByteSize) :
    ∃ next, request command link = (.error (.protocol "packet too long"), next) := by
  obtain ⟨acks, rfl⟩ := ha
  have hread := Frame.readBytes_of_long (Frame.ending (some .wouldBlock)) acks hn hl
  rcases hb : Frame.readBytes (Frame.ending (some .wouldBlock))
    (List.replicate acks Frame.plus ++ Text.utf8 (Frame.ofText reply)) with ⟨error | text, rest⟩
  · rw [hb] at hread
    cases hread
    have hinbox : Frame.read (link.heard link.connection).inbox =
        (.error (.protocol "packet too long"), ⟨rest, some .wouldBlock⟩) := by
      rw [hq.heard_eq hr, Frame.read, hb]
    rw [request_of_sent (send_of_written hq.write_eq)]
    exact ⟨_, receive_of_refused hinbox⟩
  · rw [hb] at hread
    cases hread

theorem requests_of_answers {replies : List String} (commands : List Command)
    (hq : link.IsQuiet) (hr : link.wire.reactions = answers ++ reactions)
    (ha : List.Forall₂ Reaction.Answers answers replies)
    (hf : ∀ reply ∈ replies, Frame.Fits reply) (hl : commands.length = replies.length) :
    ∃ finish, requests commands link = (.ok replies, finish) ∧ finish.IsQuiet ∧
      finish.wire.reactions = reactions := by
  induction ha generalizing commands link with
  | nil =>
    obtain rfl := List.length_eq_zero_iff.mp hl
    exact ⟨link, requests_nil_iff.mpr ⟨rfl, rfl⟩, hq, hr⟩
  | cons h ht ih =>
    obtain ⟨command, commands, rfl⟩ := List.exists_cons_of_length_eq_add_one hl
    obtain ⟨hf, hfs⟩ := List.forall_mem_cons.mp hf
    obtain ⟨next, hn, hq, hr⟩ := request_of_answers command hq hr h hf
    obtain ⟨finish, hs, hf⟩ := ih commands hq hr hfs (by simpa using hl)
    exact ⟨finish, requests_cons_iff.mpr ⟨_, _, next, hn, hs, rfl⟩, hf⟩

theorem join_transmissions (commands : List Command) :
    String.join ((commands.flatMap fun command ↦ [.command command, .acknowledgement]).map
        Transmission.text) =
      String.join (commands.map fun command ↦ Frame.ofText command.text ++ "+") := by
  unfold String.join
  generalize "" = sent
  induction commands generalizing sent with
  | nil => rfl
  | cons command commands ih =>
    simp only [List.flatMap_cons, List.cons_append, List.nil_append, List.map_cons, List.foldl_cons,
      Transmission.text, ← String.append_assoc]
    exact ih _

theorem sent_of_requests {wire : Wire} {finish : Link} {commands : List Command}
    {replies : List String} (h : requests commands wire.opened = (.ok replies, finish)) :
    finish.wire.sent = wire.sent ++
      [String.join (commands.map fun command ↦ Frame.ofText command.text ++ "+")] := by
  obtain ⟨-, hw⟩ := wire_of_requests h
  have hl : wire.received.length < (wire.received ++ [[]]).length := by simp
  rw [hw, Wire.opened, Wire.sent, List.modify_eq_take_cons_drop hl]
  simp [Wire.sent, ← join_transmissions]

end Link

end Lockstep
