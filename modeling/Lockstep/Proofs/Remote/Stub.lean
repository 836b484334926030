import Lockstep.Proofs.Checker.Ending
import Lockstep.Proofs.Remote.States

namespace Lockstep

/-- A stop reply for a signal: its letter and two digits, and then anything. -/
def StopReply.IsSignal (reply : String) : Prop :=
  ∃ letter high low rest, reply.toList = letter :: high :: low :: rest ∧
    (letter = 'S' ∨ letter = 'T') ∧ Hex.isDigit high = true ∧ Hex.isDigit low = true

theorem StopReply.IsSignal.parse {reply : String} (h : IsSignal reply) :
    ∃ code, parse? reply = some (.signal code) := by
  obtain ⟨letter, high, low, rest, hr, hl, hh, hlow⟩ := h
  obtain ⟨h, hh⟩ := Option.isSome_iff_exists.mp hh
  obtain ⟨l, hl'⟩ := Option.isSome_iff_exists.mp hlow
  refine ⟨UInt8.ofNat (16 * h + l), ?_⟩
  rw [parse?, hr]
  dsimp only
  rw [hh, hl']
  rcases hl with rfl | rfl <;> rfl

structure Turn where
  stop : String
  state : Registers
  /-- How many digits there are of registers without a value. -/
  unavailable : Nat

def Turn.round (turn : Turn) : Round :=
  ⟨turn.stop, RegisterBlock.ofRegisters turn.state turn.unavailable⟩

structure Stub where
  greeting : Greeting
  turns : List Turn

namespace Stub

def states (stub : Stub) : List Registers :=
  stub.turns.map Turn.state

def replies (stub : Stub) : List String :=
  stub.greeting.replies ++ (stub.turns.flatMap (·.round.replies) ++ ["OK"])

/-- The stub waits behind a wire, and it reports each halt with a signal. -/
structure Serves (stub : Stub) (wire : Wire) (address : String) : Prop where
  listens : ∃ endpoint ∈ wire.listening, Endpoint.parse address = .ok endpoint
  halted : StopReply.IsSignal stub.greeting.halt
  stopped : ∀ turn ∈ stub.turns, StopReply.IsSignal turn.stop
  answers : ∃ answers rest, wire.reactions = answers ++ rest ∧
    List.Forall₂ Reaction.Answers answers stub.replies

end Stub

theorem RegisterBlock.head?_ofRegisters (registers : Registers) (unavailable : Nat) :
    (ofRegisters registers unavailable).toList.head? ≠ some 'E' := by
  have hd : ∀ n < 16, Hex.digit n ≠ 'E' := by decide
  have hb := (UInt8.ofNat ((registers.get .af).toNat % 256)).toNat_lt
  intro h
  rw [toList_ofRegisters] at h
  exact hd _ (by omega) (Option.some.inj h)

theorem Turn.yields {turn : Turn} (h : StopReply.IsSignal turn.stop) :
    turn.round.Yields (RegisterBlock.table turn.state.entries) := by
  refine ⟨h.parse, ?_⟩
  have hd := RegisterBlock.decode_ofRegisters turn.state turn.unavailable
  have he := RegisterBlock.head?_ofRegisters turn.state turn.unavailable
  simp [RemoteSession.readRegisters, Turn.round, he, hd, Except.map]

namespace Stub

variable {stub : Stub} {wire : Wire} {address : String} {settings : Settings} {pcs : List Word}

theorem yields_of_serves (h : stub.Serves wire address) (k : Nat) :
    List.Forall₂ Round.Yields ((stub.turns.take k).map Turn.round)
      ((stub.states.take k).map fun state ↦ RegisterBlock.table state.entries) := by
  rw [states, ← List.map_take, List.map_map, List.forall₂_map_left_iff, List.forall₂_map_right_iff,
    List.forall₂_same]
  intro turn ht
  exact Turn.yields (h.stopped turn (List.mem_of_mem_take ht))

theorem length_replies (turns : List Turn) :
    (turns.flatMap (·.round.replies)).length = 4 * turns.length := by
  have hr := Round.length_flatMap_replies (turns.map Turn.round)
  rwa [List.flatMap_map, List.length_map] at hr

theorem replies_eq (stub : Stub) (k : Nat) :
    stub.replies = (stub.greeting.replies ++ (stub.turns.take k).flatMap (·.round.replies)) ++
      ((stub.turns.drop k).flatMap (·.round.replies) ++ ["OK"]) := by
  rw [replies]
  conv_lhs => rw [← List.take_append_drop k stub.turns]
  simp only [List.flatMap_append, List.append_assoc]

theorem mem_replies {k : Nat} {reply : String}
    (h : reply ∈ stub.greeting.replies ++ (stub.turns.take k).flatMap (·.round.replies)) :
    reply ∈ stub.replies := by
  rw [stub.replies_eq k]
  exact List.mem_append_left _ h

theorem requests_of_serves (h : stub.Serves wire address) {k : Nat} (hk : k ≤ stub.turns.length)
    (hf : ∀ reply ∈ stub.greeting.replies ++ (stub.turns.take k).flatMap (·.round.replies),
      Frame.Fits reply) (hn : pcs.length = k) :
    ∃ finish, Link.requests (Command.greeting ++ pcs.flatMap Command.round) wire.opened =
        (.ok (stub.greeting.replies ++ (stub.turns.take k).flatMap (·.round.replies)), finish) ∧
      finish.IsQuiet ∧ ∃ answers rest, finish.wire.reactions = answers ++ rest ∧
        List.Forall₂ Reaction.Answers answers
          ((stub.turns.drop k).flatMap (·.round.replies) ++ ["OK"]) := by
  obtain ⟨answers, rest, hr, ha⟩ := h.answers
  rw [stub.replies_eq k] at ha
  obtain ⟨first, last, rfl, hfirst, hlast⟩ : ∃ first last, answers = first ++ last ∧
      List.Forall₂ Reaction.Answers first _ ∧ List.Forall₂ Reaction.Answers last _ :=
    ⟨_, _, (List.take_append_drop _ answers).symm, List.forall₂_take_append _ _ _ ha,
      List.forall₂_drop_append _ _ _ ha⟩
  rw [List.append_assoc] at hr
  have hlength : (Command.greeting ++ pcs.flatMap Command.round).length =
      (stub.greeting.replies ++ (stub.turns.take k).flatMap (·.round.replies)).length := by
    rw [List.length_append, List.length_append, Command.length_rounds, length_replies, hn,
      List.length_take, Nat.min_eq_left hk]
    rfl
  obtain ⟨finish, hq, hquiet, hleft⟩ := Link.requests_of_answers _
    (Link.isQuiet_opened wire) hr hfirst hf hlength
  exact ⟨finish, hq, hquiet, last, rest, hleft, hlast⟩

/-- As many surveys succeed as the stub has turns, and they show its states. -/
theorem survey_of_serves (h : stub.Serves wire address)
    (ha : RegisterBlock.layout? settings.architecture = some Register.all)
    (hl : settings.resumeLimit ≠ some ⟨0⟩) {k : Nat} (hk : k ≤ stub.turns.length)
    (hf : ∀ reply ∈ stub.greeting.replies ++ (stub.turns.take k).flatMap (·.round.replies),
      Frame.Fits reply) (hn : pcs.length = k) :
    ∃ finish, Debugger.survey settings address pcs ({ wire } : RemoteSession) =
        (.ok ((stub.states.take k).map fun state ↦ RegisterBlock.table state.entries),
          RemoteSession.ofLink settings none finish) ∧
      (∃ replies, Link.requests (Command.greeting ++ pcs.flatMap Command.round) wire.opened =
        (.ok replies, finish)) ∧
      finish.IsQuiet ∧ ∃ answers rest, finish.wire.reactions = answers ++ rest ∧
        List.Forall₂ Reaction.Answers answers
          ((stub.turns.drop k).flatMap (·.round.replies) ++ ["OK"]) := by
  obtain ⟨finish, hr, hquiet, hleft⟩ := requests_of_serves h hk hf hn
  obtain ⟨code, hp⟩ := h.halted.parse
  have hc := Wire.connect_eq_ok_iff.mpr ⟨h.listens, rfl⟩
  have hrounds : pcs.length = ((stub.turns.take k).map Turn.round).length := by simp [hn, hk]
  refine ⟨finish, ?_, ⟨_, hr⟩, hquiet, hleft⟩
  refine RemoteSession.survey_of_replies ha hl hc hrounds ?_ hp (yields_of_serves h k)
  rw [List.flatMap_map]
  exact hr

/-- What a check asks of a stub, request by request. -/
def asked (pcs : List Word) (released : Bool) : List String :=
  ["qSupported:hwbreak+;", "?", "qAttached"] ++
    (pcs.flatMap (fun pc ↦
      let digits := String.ofList (Nat.toDigits 16 pc.toNat)
      ["Z1," ++ digits ++ ",1", "c", "z1," ++ digits ++ ",1", "g"]) ++
    if released then ["D"] else [])

theorem map_text_check (pcs : List Word) (released : Bool) :
    (Command.check pcs released).map Command.text = asked pcs released := by
  have hr : ∀ pc, (Command.round pc).map Command.text =
      ["Z1," ++ String.ofList (Nat.toDigits 16 pc.toNat) ++ ",1", "c",
        "z1," ++ String.ofList (Nat.toDigits 16 pc.toNat) ++ ",1", "g"] := by
    intro pc
    simp only [Command.round, List.map_cons, List.map_nil, Command.text, Command.breakpoint_eq]
  rw [Command.check, List.map_append, List.map_append, List.map_flatMap]
  simp only [hr]
  cases released <;> rfl

theorem sent_of_check {finish : Link} {released : Bool} {said : List String}
    (h : Link.requests (Command.check pcs released) wire.opened = (.ok said, finish)) :
    finish.wire.sent = wire.sent ++
      [String.join ((asked pcs released).map fun text ↦ Frame.ofText text ++ "+")] := by
  rw [Link.sent_of_requests h, ← map_text_check, List.map_map]
  rfl

variable {cursor : Cursor}

theorem ends_passed_of_serves (h : stub.Serves wire address)
    (ha : RegisterBlock.layout? settings.architecture = some Register.all)
    (hl : settings.resumeLimit ≠ some ⟨0⟩) (hf : ∀ reply ∈ stub.replies, Frame.Fits reply)
    (hc : cursor.failure? = none) (ht : Tracks stub.states cursor.records) :
    ∃ final : Checker RemoteSession,
      Ends cursor settings address { wire } (.ok (.passed cursor.records.length)) final ∧
      final.session.wire.sent = wire.sent ++
        [String.join ((asked (cursor.records.map Record.pc) true).map fun text ↦
          Frame.ofText text ++ "+")] := by
  have hlen : cursor.records.length = stub.turns.length := by
    rw [← ht.length_eq, states, List.length_map]
  obtain ⟨finish, hs, ⟨said, hr⟩, hquiet, answers, rest, hleft, hanswers⟩ :=
    survey_of_serves h ha hl hlen.le (fun reply hm ↦ hf reply (mem_replies hm))
      (List.length_map Record.pc)
  rw [hlen, List.drop_length, List.flatMap_nil, List.nil_append, List.forall₂_cons_right_iff]
    at hanswers
  obtain ⟨answer, answers, ho, hnil, rfl⟩ := hanswers
  obtain rfl := List.forall₂_nil_right_iff.mp hnil
  have hok : Frame.Fits "OK" := hf "OK" (by simp [replies])
  obtain ⟨last, hd, -⟩ := Link.request_of_answers .detach hquiet hleft ho hok
  have hstates : stub.states.take cursor.records.length = stub.states := by
    rw [← ht.length_eq, List.take_length]
  rw [hstates] at hs
  refine ⟨_, .passed hc ⟨_, hs, Tracks.agree_iff.mpr ht⟩
    (RemoteSession.disconnect_ofLink_iff.mpr ⟨last, hd, rfl⟩), ?_⟩
  exact sent_of_check (Link.requests_check hr hd)

theorem ends_failed_of_serves (h : stub.Serves wire address)
    (ha : RegisterBlock.layout? settings.architecture = some Register.all)
    (hl : settings.resumeLimit ≠ some ⟨0⟩) (hf : ∀ reply ∈ stub.replies, Frame.Fits reply)
    {k : Nat} {record : Record} {live : Registers}
    (hrecord : cursor.records[k]? = some record) (hlive : stub.states[k]? = some live)
    (ht : Tracks (stub.states.take k) (cursor.records.take k))
    (hne : live ≠ .ofRecords (cursor.records.take (k + 1))) :
    ∃ final : Checker RemoteSession,
      Ends cursor settings address { wire }
        (.ok (.failed ⟨k + 1, record.line, live, .ofRecords (cursor.records.take (k + 1))⟩)) final ∧
      final.session.wire.sent = wire.sent ++
        [String.join ((asked ((cursor.records.take (k + 1)).map Record.pc) false).map fun text ↦
          Frame.ofText text ++ "+")] := by
  obtain ⟨hkr, hrecord⟩ := List.getElem?_eq_some_iff.mp hrecord
  obtain ⟨hks, hlive⟩ := List.getElem?_eq_some_iff.mp hlive
  have hturns : k + 1 ≤ stub.turns.length := by
    rw [states, List.length_map] at hks
    exact hks
  have htake : cursor.records.take (k + 1) = cursor.records.take k ++ [record] := by
    rw [← hrecord]
    simp
  have hstates : stub.states.take (k + 1) = stub.states.take k ++ [live] := by
    rw [← hlive]
    simp
  have hr : cursor.records = cursor.records.take k ++ record :: cursor.records.drop (k + 1) := by
    rw [← hrecord]
    simp
  have hn : ((cursor.records.take (k + 1)).map Record.pc).length = k + 1 := by
    rw [List.length_map, List.length_take, Nat.min_eq_left hkr]
  obtain ⟨finish, hs, ⟨said, hreq⟩, -⟩ := survey_of_serves h ha hl hturns
    (fun reply hm ↦ hf reply (mem_replies hm)) hn
  have hall : Link.requests (Command.check ((cursor.records.take (k + 1)).map Record.pc) false)
      wire.opened = (.ok said, finish) := by
    rw [Command.check, if_neg Bool.false_ne_true, List.append_nil]
    exact hreq
  rw [hstates, htake, List.map_append, List.map_singleton, List.map_append, List.map_singleton] at hs
  obtain ⟨dumps, dump, s, hsurvey, hsample, hd⟩ := Debugger.survey_concat_iff.mp hs
  have hlast : [RegisterBlock.table live.entries].length = [dump].length := by
    rw [List.length_singleton, List.length_singleton]
  obtain ⟨hdumps, hdump⟩ := List.append_inj' hd hlast
  subst hdumps
  rw [← List.singleton_inj.mp hdump] at hsample
  have hm : Matched settings address ({ wire } : RemoteSession) (cursor.records.take k) s :=
    ⟨_, hsurvey, Tracks.agree_iff.mpr ht⟩
  have hl := RegisterBlock.mergeDump_table (.ofRecords (cursor.records.take k)) live
  have hlength : (cursor.records.take k).length = k := by simp [Nat.le_of_lt hkr]
  rw [htake] at hne
  have hends := Ends.mismatch hr hm hsample hl hne rfl
  rw [hlength, ← htake] at hends
  exact ⟨_, hends, sent_of_check hall⟩

end Stub

end Lockstep
