import Lockstep.Proofs.Remote.Comparison

namespace Lockstep

namespace StopReply

/-- The target has exited or was terminated. -/
def IsDeparture (reply : String) : Prop :=
  (∃ status, parse? reply = some (.exited status)) ∨
    ∃ signal, parse? reply = some (.terminated signal)

theorem not_isDeparture_of_signal {reply : String} {code : UInt8}
    (h : parse? reply = some (.signal code)) : ¬ IsDeparture reply := by
  rintro (⟨status, hs⟩ | ⟨signal, hs⟩)
  · cases h.symm.trans hs
  · cases h.symm.trans hs

theorem not_isDeparture_iff {reply : String} {stop : StopReply} (h : parse? reply = some stop) :
    ¬ IsDeparture reply ↔ ∃ code, parse? reply = some (.signal code) := by
  constructor
  · intro hn
    cases stop with
    | signal code => exact ⟨code, h⟩
    | exited status => exact absurd (.inl ⟨status, h⟩) hn
    | terminated signal => exact absurd (.inr ⟨signal, h⟩) hn
  · rintro ⟨code, hc⟩
    exact not_isDeparture_of_signal hc

end StopReply

namespace Command

/-- Whether a command is answered by how the target stopped. -/
def asksForStop : Command → Bool
  | haltReason | go => true
  | _ => false

/-- Those among the replies to some commands that tell how the target stopped. -/
def stops (commands : List Command) (replies : List String) : List String :=
  ((commands.zip replies).filter fun exchange ↦ exchange.1.asksForStop).map Prod.snd

theorem stops_append {first second : List Command} {earlier later : List String}
    (h : first.length = earlier.length) :
    stops (first ++ second) (earlier ++ later) = stops first earlier ++ stops second later := by
  simp [stops, List.zip_append h]

theorem stops_rounds {pcs : List Word} {rounds : List Round} (h : pcs.length = rounds.length) :
    stops (pcs.flatMap Command.round) (rounds.flatMap Round.replies) = rounds.map Round.stop := by
  induction pcs generalizing rounds with
  | nil =>
    obtain rfl := List.length_eq_zero_iff.mp h.symm
    rfl
  | cons pc pcs ih =>
    obtain ⟨round, rounds, rfl⟩ := List.exists_cons_of_length_eq_add_one h.symm
    rw [List.flatMap_cons, List.flatMap_cons, stops_append rfl, ih (by simpa using h)]
    rfl

theorem stops_check {pcs : List Word} {greeting : Greeting} {rounds : List Round}
    (h : pcs.length = rounds.length) (released : Bool) :
    stops (check pcs released)
        (greeting.replies ++ (rounds.flatMap Round.replies ++ if released then ["OK"] else [])) =
      greeting.halt :: rounds.map Round.stop := by
  have hlength : (pcs.flatMap Command.round).length = (rounds.flatMap Round.replies).length := by
    rw [length_rounds, Round.length_flatMap_replies, h]
  rw [check, stops_append rfl, stops_append hlength, stops_rounds h]
  cases released <;> simp [stops, asksForStop, Command.greeting, Greeting.replies]

end Command

def Outcome.compared : Outcome → Nat
  | passed compared => compared
  | failed found => found.step

section

variable {σ : Type} [Debugger σ] {cursor : Cursor} {settings : Settings} {endpoint : String}

/-- Behind an outcome there are dumps for all of its comparisons, and the target was let go if it
passed. -/
theorem survey_of_ends_ok {start : σ} {outcome : Outcome} {final : Checker σ}
    (h : Ends cursor settings endpoint start (.ok outcome) final) :
    outcome.compared ≤ cursor.records.length ∧ ∃ dumps s,
      Debugger.survey settings endpoint ((cursor.records.take outcome.compared).map Record.pc)
        start = (.ok dumps, s) ∧
      if outcome.isPassed then Debugger.disconnect s = (.ok (), final.session)
      else final.session = s := by
  cases h with
  | passed hf hm hd =>
    obtain ⟨dumps, hs, -⟩ := hm
    refine ⟨Nat.le_refl _, dumps, _, ?_, hd⟩
    rw [Outcome.compared, List.take_length]
    exact hs
  | @mismatch earlier later record s s' dump live found hr hm hs hl hn hf =>
    obtain ⟨dumps, hsurvey, -⟩ := hm
    subst hf
    refine ⟨by simp [Outcome.compared, hr], dumps ++ [dump], s', ?_, rfl⟩
    have htake : cursor.records.take (earlier.length + 1) = earlier ++ [record] := by
      simp [hr, List.take_append, List.take_of_length_le]
    rw [Outcome.compared, htake, List.map_append, List.map_singleton]
    exact Debugger.survey_concat_iff.mpr ⟨dumps, dump, s, hsurvey, hs, rfl⟩

end

theorem requests_of_ends_ok {wire : Wire} {address : String} {cursor : Cursor}
    {settings : Settings} {outcome : Outcome} {final : Checker RemoteSession}
    (h : Ends cursor settings address { wire } (.ok outcome) final) :
    let pcs := (cursor.records.take outcome.compared).map Record.pc
    ∃ (greeting : Greeting) (reason : StopReply) (rounds : List Round) (dumps : List String)
      (finish : Link), pcs.length = rounds.length ∧
      wire.connect address = .ok (wire.opened.wire, wire.opened.connection) ∧
      Link.requests (Command.check pcs outcome.isPassed) wire.opened =
        (.ok (greeting.replies ++
          (rounds.flatMap Round.replies ++ if outcome.isPassed then ["OK"] else [])), finish) ∧
      final.session.wire = finish.wire ∧ StopReply.parse? greeting.halt = some reason ∧
      List.Forall₂ Round.Yields rounds dumps := by
  intro pcs
  obtain ⟨-, dumps, s, hs, hd⟩ := survey_of_ends_ok h
  obtain ⟨start, greeting, reason, rounds, mid, hc, hr, hp, hy, rfl⟩ :=
    RemoteSession.replies_of_survey hs
  have hlength : pcs.length = rounds.length := by
    rw [hy.length_eq, Debugger.length_of_survey hs]
  obtain ⟨-, rfl⟩ := Wire.connect_eq_ok_iff.mp hc
  cases hpassed : outcome.isPassed with
  | true =>
    rw [hpassed, if_pos rfl] at hd
    obtain ⟨finish, hdetach, hfinal⟩ := RemoteSession.disconnect_ofLink_iff.mp hd
    refine ⟨greeting, reason, rounds, dumps, finish, hlength, hc, ?_, ?_, hp, hy⟩
    · rw [if_pos rfl, ← List.append_assoc]
      exact Link.requests_check hr hdetach
    · rw [hfinal]
      rfl
  | false =>
    rw [hpassed, if_neg Bool.false_ne_true] at hd
    refine ⟨greeting, reason, rounds, dumps, mid, hlength, hc, ?_, ?_, hp, hy⟩
    · rw [if_neg Bool.false_ne_true, List.append_nil, Command.check, if_neg Bool.false_ne_true,
        List.append_nil]
      exact hr
    · rw [hd]
      rfl

/-- A check comes to an outcome only if the target stopped at a signal each time it was resumed. Of
the halt reason, which comes before that, it asks no more than to be some stop reply, so a target
that is gone from the start is not noticed by it. -/
theorem stops_of_outcome {storage : Storage} {path address : String} {window : Window}
    {settings : Settings} {wire : Wire} {outcome : Outcome} {after : Checker RemoteSession}
    (h : Checker.checkFile storage path window address settings { session := { wire } } =
      (.ok outcome, after)) :
    ∃ cursor, storage.openCursor path window = .ok cursor ∧
      let commands := Command.check ((cursor.records.take outcome.compared).map Record.pc)
        outcome.isPassed
      ∃ replies finish halt stops, Link.requests commands wire.opened = (.ok replies, finish) ∧
        after.session.wire = finish.wire ∧ Command.stops commands replies = halt :: stops ∧
        stops.length = outcome.compared ∧
        (∀ stop ∈ stops, ∃ code, StopReply.parse? stop = some (.signal code)) ∧
        (∃ reason, StopReply.parse? halt = some reason) ∧
        ((∀ stop ∈ Command.stops commands replies, ¬ StopReply.IsDeparture stop) ↔
          ∃ code, StopReply.parse? halt = some (.signal code)) := by
  obtain ⟨cursor, ho, final, hends, rfl⟩ := Checker.ends_of_checkFile h
  refine ⟨cursor, ho, ?_⟩
  intro commands
  have hle := (survey_of_ends_ok hends).1
  obtain ⟨greeting, reason, rounds, dumps, finish, hlength, -, hr, hw, hp, hy⟩ :=
    requests_of_ends_ok hends
  have hstops : Command.stops commands (greeting.replies ++
      (rounds.flatMap Round.replies ++ if outcome.isPassed then ["OK"] else [])) =
        greeting.halt :: rounds.map Round.stop := Command.stops_check hlength outcome.isPassed
  have hsignals : ∀ stop ∈ rounds.map Round.stop,
      ∃ code, StopReply.parse? stop = some (.signal code) := by
    rw [List.forall_mem_map]
    exact ((List.forall₂_and_left rounds dumps).mp hy).1
  refine ⟨_, finish, greeting.halt, rounds.map Round.stop, hr, hw, hstops, ?_, hsignals,
    ⟨reason, hp⟩, ?_⟩
  · rw [List.length_map, ← hlength, List.length_map, List.length_take, Nat.min_eq_left hle]
  · rw [hstops, List.forall_mem_cons, ← StopReply.not_isDeparture_iff hp, and_iff_left_iff_imp]
    intro _ stop hm
    obtain ⟨code, hc⟩ := hsignals stop hm
    exact StopReply.not_isDeparture_of_signal hc

theorem stops_of_two_records :
    let outcome : Outcome := .passed 2
    let wire := (twoTurns "S05" 8).wire
    ∃ after, Checker.checkFile twoRecords "trace" {} defaultEndpoint {}
        ({ session := { wire } } : Checker RemoteSession) = (.ok outcome, after) ∧
      ∃ cursor, twoRecords.openCursor "trace" {} = .ok cursor ∧
        let commands := Command.check ((cursor.records.take outcome.compared).map Record.pc)
          outcome.isPassed
        ∃ replies finish halt stops, Link.requests commands wire.opened = (.ok replies, finish) ∧
          after.session.wire = finish.wire ∧ Command.stops commands replies = halt :: stops ∧
          stops.length = outcome.compared ∧
          (∀ stop ∈ stops, ∃ code, StopReply.parse? stop = some (.signal code)) ∧
          (∃ reason, StopReply.parse? halt = some reason) ∧
          ((∀ stop ∈ Command.stops commands replies, ¬ StopReply.IsDeparture stop) ↔
            ∃ code, StopReply.parse? halt = some (.signal code)) := by
  intro outcome wire
  obtain ⟨after, hfile⟩ := exists_passed_twoTurns
  exact ⟨after, hfile, stops_of_outcome hfile⟩

namespace Stub

theorem connect_wire (stub : Stub) :
    stub.wire.connect defaultEndpoint = .ok (stub.wire.opened.wire, stub.wire.opened.connection) :=
  Wire.connect_eq_ok_iff.mpr ⟨⟨⟨"localhost", 1337⟩, List.mem_singleton_self _, by decide⟩, rfl⟩

theorem answers_map_reply (replies : List String) :
    List.Forall₂ Reaction.Answers (replies.map Reaction.reply) replies := by
  rw [List.forall₂_map_left_iff, List.forall₂_same]
  exact fun reply _ ↦ Reaction.answers_reply reply

theorem ends_passed_of_no_turns {stub : Stub} {settings : Settings} {cursor : Cursor}
    {reason : StopReply} (ht : stub.turns = []) (hf : ∀ reply ∈ stub.replies, Frame.Fits reply)
    (hp : StopReply.parse? stub.greeting.halt = some reason)
    (ha : RegisterBlock.layout? settings.architecture = some Register.all)
    (hr : cursor.records = []) (hc : cursor.failure? = none) :
    ∃ (final : Checker RemoteSession) (finish : Link),
      Ends cursor settings defaultEndpoint { wire := stub.wire } (.ok (.passed 0)) final ∧
      Link.requests (Command.check [] true) stub.wire.opened = (.ok stub.replies, finish) ∧
      final.session.wire = finish.wire := by
  have hreplies : stub.replies = stub.greeting.replies ++ ["OK"] := by
    rw [replies, ht]
    rfl
  have hreactions : stub.wire.opened.wire.reactions =
      stub.greeting.replies.map Reaction.reply ++ [Reaction.reply "OK"] := by
    change stub.replies.map Reaction.reply = _
    rw [hreplies, List.map_append]
    rfl
  rw [hreplies] at hf
  obtain ⟨mid, hg, hquiet, hleft⟩ := Link.requests_of_answers Command.greeting
    (Link.isQuiet_opened stub.wire) hreactions (answers_map_reply _)
    (fun reply hm ↦ hf reply (List.mem_append_left _ hm)) rfl
  obtain ⟨finish, hd, -⟩ := Link.request_of_answers .detach hquiet hleft
    (Reaction.answers_reply "OK") (hf "OK" (by simp))
  have he : Debugger.engage settings defaultEndpoint ({ wire := stub.wire } : RemoteSession) =
      (.ok (), RemoteSession.ofLink settings none mid) :=
    RemoteSession.engage_iff.mpr
      ⟨ha, stub.wire.opened, stub.greeting, reason, mid, stub.connect_wire, hg, hp, rfl⟩
  have hm : Matched settings defaultEndpoint ({ wire := stub.wire } : RemoteSession) cursor.records
      (RemoteSession.ofLink settings none mid) := by
    rw [hr]
    exact matched_nil_iff.mpr he
  have hends := Ends.passed hc hm (RemoteSession.disconnect_ofLink_iff.mpr ⟨finish, hd, rfl⟩)
  have hlength : cursor.records.length = 0 := by rw [hr, List.length_nil]
  rw [hlength] at hends
  have hall : Link.requests (Command.check [] true) stub.wire.opened =
      (.ok (stub.greeting.replies ++ ["OK"]), finish) := Link.requests_check hg hd
  rw [hreplies]
  exact ⟨_, finish, hends, hall, rfl⟩

end Stub

def exitedStub : Stub := ⟨⟨"hwbreak+", "W00", "1"⟩, []⟩

/-- A target that has exited before anything is compared is passed like one that was halted. -/
theorem passed_on_exited_target :
    let run := Checker.checkFile (.ofText "") "trace" {} defaultEndpoint {}
      ({ session := { wire := exitedStub.wire } } : Checker RemoteSession)
    run.1 = .ok (.passed 0) ∧
      ∃ finish, Link.requests (Command.check [] true) exitedStub.wire.opened =
          (.ok ["hwbreak+", "W00", "1", "OK"], finish) ∧
        run.2.session.wire = finish.wire ∧
        Command.stops (Command.check [] true) ["hwbreak+", "W00", "1", "OK"] = ["W00"] ∧
        StopReply.IsDeparture "W00" := by
  intro run
  have hnext : (Cursor.ofSource ⟨[], none⟩ {}).next =
      (none, { Cursor.ofSource ⟨[], none⟩ {} with finished := true }) := rfl
  have hfits : ∀ reply ∈ exitedStub.replies, Frame.Fits reply := by decide
  have hreason : StopReply.parse? exitedStub.greeting.halt = some (.exited 0) := by decide
  have hknown : RegisterBlock.layout? ({} : Settings).architecture = some Register.all := by decide
  obtain ⟨final, finish, hends, hr, hw⟩ := Stub.ends_passed_of_no_turns rfl hfits hreason hknown
    (Cursor.records_of_next_none hnext) (Cursor.failure?_of_next_none hnext)
  have hrun : run = _ := Checker.checkFile_of_ends { session := _ } rfl hends
  rw [hrun]
  exact ⟨rfl, finish, hr, hw, rfl, .inl ⟨0, hreason⟩⟩

end Lockstep
