import Lockstep.Proofs.Remote.Comparison

namespace Lockstep

/-- All that was said on a connection over the whole of a check, down to the bytes. -/
structure Transcript (wire : Wire) (address : String) (records : List Record) where
  start : Link
  finish : Link
  greeting : Greeting
  rounds : List Round
  packets : List (List UInt8)
  connected : wire.connect address = .ok (start.wire, start.connection)
  exchanged : Link.requests (Command.check (records.map Record.pc) true) start =
    (.ok (greeting.replies ++ (rounds.flatMap Round.replies ++ ["OK"])), finish)
  length_packets : packets.length = 4 * records.length + 4
  framed : List.Forall₂ Frame.IsPacket packets
    (greeting.replies ++ (rounds.flatMap Round.replies ++ ["OK"]))
  consumed : Reaction.stream (4 * records.length + 4) wire.reactions =
    packets.flatten ++ finish.connection.inbox.bytes
  halted : ∃ stop, StopReply.parse? greeting.halt = some stop
  shown : ∃ states, List.Forall₂ Round.Shows rounds states ∧ Tracks states records

namespace Transcript

variable {wire : Wire} {address : String} {records : List Record}

theorem exists_of_matched {settings : Settings} {session after : RemoteSession}
    (hm : Matched settings address ({ wire } : RemoteSession) records session)
    (hd : Debugger.disconnect session = (.ok (), after)) :
    ∃ transcript : Transcript wire address records, after.wire = transcript.finish.wire := by
  obtain ⟨dumps, hs, ha⟩ := hm
  obtain ⟨start, greeting, reply, rounds, mid, hc, hr, hp, hy, rfl⟩ :=
    RemoteSession.replies_of_survey hs
  obtain ⟨states, hshows, rfl⟩ := Round.states_of_yields hy
  obtain ⟨finish, hdetach, rfl⟩ := RemoteSession.disconnect_ofLink_iff.mp hd
  have hall := Link.requests_check hr hdetach
  rw [List.append_assoc] at hall
  have hlength : (Command.check (records.map Record.pc) true).length = 4 * records.length + 4 := by
    rw [Command.check, List.length_append, List.length_append, Command.length_rounds,
      List.length_map]
    simp only [Command.greeting, List.length_cons, List.length_nil, if_true]
    omega
  obtain ⟨packets, hpackets, hbytes⟩ := Link.packets_of_requests hall
  obtain ⟨-, rfl⟩ := Wire.connect_eq_ok_iff.mp hc
  refine ⟨⟨wire.opened, finish, greeting, rounds, packets, hc, hall, ?_, hpackets, ?_, ⟨reply, hp⟩,
    states, hshows, Tracks.agree_iff.mp ha⟩, rfl⟩
  · rw [hpackets.length_eq, Link.length_of_requests hall, hlength]
  · rw [hlength] at hbytes
    exact hbytes

end Transcript

/-- No check passes over a connection unless the stub has sent all of it: each packet, with each of
the golden states in its place. -/
theorem transcript_of_passed {storage : Storage} {path address : String} {window : Window}
    {settings : Settings} {wire : Wire} {n : Nat} {after : Checker RemoteSession}
    (h : Checker.checkFile storage path window address settings { session := { wire } } =
      (.ok (.passed n), after)) :
    ∃ cursor, storage.openCursor path window = .ok cursor ∧ cursor.failure? = none ∧
      cursor.records.length = n ∧
      ∃ transcript : Transcript wire address cursor.records,
        after.session.wire = transcript.finish.wire := by
  obtain ⟨cursor, ho, final, hends, rfl⟩ := Checker.ends_of_checkFile h
  cases hends with
  | passed hf hm hd =>
    obtain ⟨transcript, ht⟩ := Transcript.exists_of_matched hm hd
    exact ⟨cursor, ho, hf, rfl, transcript, ht⟩

theorem transcript_of_two_records :
    ∃ after, Checker.checkFile twoRecords "trace" {} defaultEndpoint {}
        ({ session := { wire := (twoTurns "S05" 8).wire } } : Checker RemoteSession) =
          (.ok (.passed 2), after) ∧
      ∃ cursor, twoRecords.openCursor "trace" {} = .ok cursor ∧ cursor.failure? = none ∧
        cursor.records.length = 2 ∧
        ∃ transcript : Transcript (twoTurns "S05" 8).wire defaultEndpoint cursor.records,
          after.session.wire = transcript.finish.wire := by
  obtain ⟨after, hfile⟩ := exists_passed_twoTurns
  exact ⟨after, hfile, transcript_of_passed hfile⟩

end Lockstep
