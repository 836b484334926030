import Lockstep.Proofs.Remote.Refusal
import Lockstep.Proofs.Trace.Counting

namespace Lockstep

theorem RegisterBlock.layout?_eq_all {architecture : String} (h : layout? architecture ≠ none) :
    layout? architecture = some Register.all := by
  unfold layout? at h ⊢
  split at h
  · rename_i ha
    rw [if_pos ha]
  · exact absurd rfl h

/-- A check against a stub with good manners compares the states that the stub shows with the golden
ones, and tells the stub nothing else than what that takes. -/
theorem check_of_serves {storage : Storage} {path address : String} {window : Window}
    {settings : Settings} {cursor : Cursor} {stub : Stub} {wire : Wire}
    (hopen : storage.openCursor path window = .ok cursor) (hclean : cursor.failure? = none)
    (hlength : stub.turns.length = cursor.records.length)
    (hknown : RegisterBlock.layout? settings.architecture ≠ none)
    (hlimit : settings.resumeLimit ≠ some ⟨0⟩) (hserves : stub.Serves wire address)
    (hfits : ∀ reply ∈ stub.replies, Frame.Fits reply) :
    let run := Checker.checkFile storage path window address settings
      ({ session := { wire } } : Checker RemoteSession)
    let sent (asked : List String) :=
      wire.sent ++ [String.join (asked.map fun text ↦ Frame.ofText text ++ "+")]
    (Tracks stub.states cursor.records → run.1 = .ok (.passed cursor.records.length) ∧
      run.2.session.wire.sent = sent (Stub.asked (cursor.records.map Record.pc) true)) ∧
    (¬ Tracks stub.states cursor.records → ∃ k live,
      stub.states[k]? = some live ∧ Tracks (stub.states.take k) (cursor.records.take k) ∧
      live ≠ .ofRecords (cursor.records.take (k + 1)) ∧
      run.1 = .ok (.failed
        ⟨k + 1, window.skip + (k + 1), live, .ofRecords (cursor.records.take (k + 1))⟩) ∧
      run.2.session.wire.sent =
        sent (Stub.asked ((cursor.records.take (k + 1)).map Record.pc) false)) := by
  intro run sent
  have hall := RegisterBlock.layout?_eq_all hknown
  constructor
  · intro ht
    obtain ⟨final, hends, hsent⟩ :=
      Stub.ends_passed_of_serves hserves hall hlimit hfits hclean ht
    have hrun : run = _ := Checker.checkFile_of_ends _ hopen hends
    rw [hrun]
    exact ⟨rfl, hsent⟩
  · intro ht
    have hstates : stub.states.length = cursor.records.length := by
      rw [Stub.states, List.length_map, hlength]
    obtain ⟨k, record, live, hr, hs, hbefore, hne⟩ := Tracks.exists_first_of_not hstates ht
    obtain ⟨final, hends, hsent⟩ :=
      Stub.ends_failed_of_serves hserves hall hlimit hfits hr hs hbefore hne
    obtain ⟨source, -, rfl⟩ := Storage.openCursor_eq_ok_iff.mp hopen
    rw [Cursor.line_of_records_ofSource hr, Nat.add_assoc] at hends
    refine ⟨k, live, hs, hbefore, hne, ?_⟩
    have hrun : run = _ := Checker.checkFile_of_ends _ hopen hends
    rw [hrun]
    exact ⟨rfl, hsent⟩

def twoRecords : Storage := .ofText "pc:1\naf:1f0,pc:2\n"

def twoRecordsCursor : Cursor := .ofSource ⟨Text.utf8 "pc:1\naf:1f0,pc:2\n", none⟩ {}

def twoTurns (halt : String) (unavailable : Nat) : Stub where
  greeting := ⟨"hwbreak+", halt, "1"⟩
  turns := [⟨"S05", ⟨0, 0, 0, 0, 0, 1⟩, unavailable⟩, ⟨"T0506:02;", ⟨0x1f0, 0, 0, 0, 0, 2⟩, 0⟩]

def Stub.wire (stub : Stub) : Wire where
  listening := [⟨"localhost", 1337⟩]
  reactions := stub.replies.map Reaction.reply

theorem Stub.serves_wire {stub : Stub} (hh : StopReply.IsSignal stub.greeting.halt)
    (hs : ∀ turn ∈ stub.turns, StopReply.IsSignal turn.stop) :
    stub.Serves stub.wire defaultEndpoint where
  listens := ⟨⟨"localhost", 1337⟩, List.mem_singleton_self _, by decide⟩
  halted := hh
  stopped := hs
  answers := by
    refine ⟨_, [], (List.append_nil _).symm, ?_⟩
    rw [Stub.wire, List.forall₂_map_left_iff, List.forall₂_same]
    exact fun reply _ ↦ Reaction.answers_reply reply

theorem isSignal_S05 : StopReply.IsSignal "S05" := ⟨_, _, _, _, rfl, .inl rfl, rfl, rfl⟩

theorem serves_twoTurns {halt : String} (h : StopReply.IsSignal halt) (unavailable : Nat) :
    (twoTurns halt unavailable).Serves (twoTurns halt unavailable).wire defaultEndpoint := by
  refine Stub.serves_wire h ?_
  simp only [twoTurns, List.forall_mem_cons, List.not_mem_nil, false_implies, implies_true, and_true]
  exact ⟨⟨_, _, _, _, rfl, .inl rfl, rfl, rfl⟩, ⟨_, _, _, _, rfl, .inr rfl, rfl, rfl⟩⟩

theorem records_twoRecordsCursor :
    twoRecordsCursor.records =
        [⟨1, ⟨none, none, none, none, none, some 1⟩, 1, rfl⟩,
          ⟨2, ⟨some 0x1f0, none, none, none, none, some 2⟩, 2, rfl⟩] ∧
      twoRecordsCursor.failure? = none := by
  have h₁ : twoRecordsCursor.next =
      (some (.ok ⟨1, ⟨none, none, none, none, none, some 1⟩, 1, rfl⟩),
        ⟨[.ok "af:1f0,pc:2"], {}, 0, 1, 1, false⟩) := rfl
  have h₂ : Cursor.next ⟨[.ok "af:1f0,pc:2"], {}, 0, 1, 1, false⟩ =
      (some (.ok ⟨2, ⟨some 0x1f0, none, none, none, none, some 2⟩, 2, rfl⟩),
        ⟨[], {}, 0, 2, 2, false⟩) := rfl
  have h₃ : Cursor.next ⟨[], {}, 0, 2, 2, false⟩ = (none, ⟨[], {}, 0, 2, 2, true⟩) := rfl
  constructor
  · rw [Cursor.records_of_next_ok h₁, Cursor.records_of_next_ok h₂, Cursor.records_of_next_none h₃]
  · rw [Cursor.failure?_of_next_ok h₁, Cursor.failure?_of_next_ok h₂, Cursor.failure?,
      Cursor.items_of_next_none h₃]
    rfl

theorem length_records_twoRecordsCursor : twoRecordsCursor.records.length = 2 := by
  rw [records_twoRecordsCursor.1]
  rfl

theorem tracks_twoTurns (halt : String) (unavailable : Nat) :
    Tracks (twoTurns halt unavailable).states twoRecordsCursor.records := by
  rw [records_twoRecordsCursor.1]
  refine ⟨rfl, fun i hi ↦ ?_⟩
  rcases i with _ | _ | i
  · rfl
  · rfl
  · simp only [List.length_cons, List.length_nil] at hi
    omega

theorem exists_passed_twoTurns :
    ∃ after, Checker.checkFile twoRecords "trace" {} defaultEndpoint {}
      ({ session := { wire := (twoTurns "S05" 8).wire } } : Checker RemoteSession) =
        (.ok (.passed 2), after) := by
  have hopen : twoRecords.openCursor "trace" {} = .ok twoRecordsCursor := rfl
  have hknown : RegisterBlock.layout? ({} : Settings).architecture = some Register.all := by decide
  obtain ⟨final, hends, -⟩ := Stub.ends_passed_of_serves (serves_twoTurns isSignal_S05 8) hknown
    (by decide) (by decide) records_twoRecordsCursor.2 (tracks_twoTurns "S05" 8)
  rw [length_records_twoRecordsCursor] at hends
  exact ⟨_, Checker.checkFile_of_ends { session := _ } hopen hends⟩

theorem check_of_two_records :
    (twoRecords.openCursor "trace" {} = .ok twoRecordsCursor ∧
      twoRecordsCursor.failure? = none ∧
      (twoTurns "S05" 8).turns.length = twoRecordsCursor.records.length ∧
      RegisterBlock.layout? "gbz80" ≠ none ∧ (none : Option Elapsed) ≠ some ⟨0⟩ ∧
      (twoTurns "S05" 8).Serves (twoTurns "S05" 8).wire defaultEndpoint ∧
      (∀ reply ∈ (twoTurns "S05" 8).replies, Frame.Fits reply) ∧
      Tracks (twoTurns "S05" 8).states twoRecordsCursor.records) ∧
    let run := Checker.checkFile twoRecords "trace" {} defaultEndpoint {}
      ({ session := { wire := (twoTurns "S05" 8).wire } } : Checker RemoteSession)
    run.1 = .ok (.passed 2) ∧ run.2.session.wire.sent = [String.join
      ((Stub.asked [1, 2] true).map fun text ↦ Frame.ofText text ++ "+")] := by
  have hopen : twoRecords.openCursor "trace" {} = .ok twoRecordsCursor := rfl
  have hlength : (twoTurns "S05" 8).turns.length = twoRecordsCursor.records.length :=
    length_records_twoRecordsCursor.symm
  have hknown : RegisterBlock.layout? ({} : Settings).architecture ≠ none := by decide
  have hlimit : ({} : Settings).resumeLimit ≠ some ⟨0⟩ := by decide
  have hserves := serves_twoTurns isSignal_S05 8
  have hfits : ∀ reply ∈ (twoTurns "S05" 8).replies, Frame.Fits reply := by decide
  have ht := tracks_twoTurns "S05" 8
  refine ⟨⟨hopen, records_twoRecordsCursor.2, hlength, hknown, hlimit, hserves, hfits, ht⟩, ?_⟩
  have h := (check_of_serves hopen records_twoRecordsCursor.2 hlength hknown hlimit hserves hfits).1
    ht
  rw [records_twoRecordsCursor.1] at h
  exact h

def verdictOnTwo (settings : Settings) (stub : Stub) : Except CheckError Outcome :=
  (Checker.checkFile twoRecords "trace" {} defaultEndpoint settings
    ({ session := { wire := stub.wire } } : Checker RemoteSession)).1

section

variable {settings : Settings} {stub : Stub} {error : SessionError}

theorem verdictOnTwo_of_ends {final : Checker RemoteSession}
    (h : Ends twoRecordsCursor settings defaultEndpoint { wire := stub.wire }
      (.error (.session error)) final) : verdictOnTwo settings stub = .error (.session error) :=
  congrArg Prod.fst (Checker.checkFile_of_ends { session := _ } rfl h)

theorem verdictOnTwo_of_engage
    (h : (Debugger.engage settings defaultEndpoint ({ wire := stub.wire } : RemoteSession)).1 =
      .error error) : verdictOnTwo settings stub = .error (.session error) := by
  have hhead : twoRecordsCursor.records = [] → twoRecordsCursor.failure? = none :=
    fun _ ↦ records_twoRecordsCursor.2
  exact verdictOnTwo_of_ends (.notEngaged hhead (Prod.ext h rfl))

theorem verdictOnTwo_of_reach {session : RemoteSession}
    (he : Debugger.engage settings defaultEndpoint ({ wire := stub.wire } : RemoteSession) =
      (.ok (), session)) (h : (Debugger.reach 1 session).1 = .error error) :
    verdictOnTwo settings stub = .error (.session error) := by
  have hr : twoRecordsCursor.records = [] ++ _ :: _ := records_twoRecordsCursor.1
  exact verdictOnTwo_of_ends (.notReached hr (matched_nil_iff.mpr he) (Prod.ext h rfl))

end

theorem verdictOnTwo_of_long_block {unavailable : Nat}
    (h : Frame.maxBody < 24 + unavailable) :
    verdictOnTwo {} (twoTurns "S05" unavailable) =
      .error (.session (.protocol "packet too long")) := by
  have hknown : RegisterBlock.layout? ({} : Settings).architecture = some Register.all := by decide
  have hlimit : ({} : Settings).resumeLimit ≠ some ⟨0⟩ := by decide
  have hserves := serves_twoTurns isSignal_S05 unavailable
  have hrecord : twoRecordsCursor.records[0]? =
      some ⟨1, ⟨none, none, none, none, none, some 1⟩, 1, rfl⟩ := by
    rw [records_twoRecordsCursor.1]
    rfl
  have hturn : (twoTurns "S05" unavailable).turns[0]? =
      some ⟨"S05", ⟨0, 0, 0, 0, 0, 1⟩, unavailable⟩ := rfl
  have hgreeting : ∀ reply ∈ ["hwbreak+", "S05", "1"], Frame.Fits reply := by decide
  have hstop : Frame.Fits "S05" := hgreeting _ (by simp)
  have hnone : Tracks [] (twoRecordsCursor.records.take 0) := ⟨rfl, by simp⟩
  obtain ⟨final, hends⟩ := Stub.ends_of_long_block hserves hknown hlimit hrecord hturn hgreeting
    hstop h hnone
  exact verdictOnTwo_of_ends hends

theorem verdictOnTwo_of_long_halt {halt : String} (hs : StopReply.IsSignal halt)
    (hn : '#' ∉ halt.toList) (hl : Frame.maxBody < halt.utf8ByteSize) :
    verdictOnTwo {} (twoTurns halt 0) = .error (.session (.protocol "packet too long")) := by
  have hknown : RegisterBlock.layout? ({} : Settings).architecture = some Register.all := by decide
  have hfeatures : Frame.Fits "hwbreak+" := by decide
  obtain ⟨session, he⟩ := Stub.engage_of_long_halt (serves_twoTurns hs 0) hknown hfeatures hn hl
  refine verdictOnTwo_of_engage ?_
  rw [he]

def paddedHalt (n : Nat) : String := String.ofList ('S' :: '0' :: '5' :: List.replicate n 'x')

theorem isSignal_paddedHalt (n : Nat) : StopReply.IsSignal (paddedHalt n) :=
  ⟨_, _, _, _, String.toList_ofList, .inl rfl, rfl, rfl⟩

theorem hash_notMem_paddedHalt (n : Nat) : '#' ∉ (paddedHalt n).toList := by
  simp [paddedHalt, List.mem_replicate]

theorem utf8ByteSize_paddedHalt (n : Nat) : (paddedHalt n).utf8ByteSize = n + 3 := by
  have ha : ∀ c ∈ 'S' :: '0' :: '5' :: List.replicate n 'x', c.toNat < 128 := by
    intro c hc
    simp only [List.mem_cons, List.mem_replicate] at hc
    rcases hc with rfl | rfl | rfl | ⟨-, rfl⟩ <;> decide
  rw [paddedHalt, Text.utf8ByteSize_ofList_of_ascii ha, List.length_cons, List.length_cons,
    List.length_cons, List.length_replicate]

/-- Replies that are too long, or have the end mark of packets in them, are not read as they were
meant, even if what they mean is what was hoped for. Nor can just any settings be used. -/
theorem check_of_two_records_broken_off :
    (twoRecords.openCursor "trace" {} = .ok twoRecordsCursor ∧
      twoRecordsCursor.failure? = none ∧ twoRecordsCursor.records.length = 2 ∧
      Frame.Fits "hwbreak+" ∧ Frame.Fits "1" ∧ ∀ halt unavailable,
        Tracks (twoTurns halt unavailable).states twoRecordsCursor.records ∧
        (StopReply.IsSignal halt → (twoTurns halt unavailable).Serves
          (twoTurns halt unavailable).wire defaultEndpoint)) ∧
    (StopReply.IsSignal "S05" ∧
      verdictOnTwo {} (twoTurns "S05" 4073) = .error (.session (.protocol "packet too long"))) ∧
    (StopReply.IsSignal (paddedHalt 4094) ∧
      verdictOnTwo {} (twoTurns (paddedHalt 4094) 0) =
        .error (.session (.protocol "packet too long"))) ∧
    (StopReply.IsSignal "S05#" ∧ verdictOnTwo {} (twoTurns "S05#" 0) =
      .error (.session (.protocol "invalid checksum digits"))) ∧
    verdictOnTwo { architecture := "z80" } (twoTurns "S05" 0) =
      .error (.session (.unsupportedArchitecture "z80")) ∧
    verdictOnTwo { resumeLimit := some ⟨0⟩ } (twoTurns "S05" 0) =
      .error (.session (.io .zeroTimeout)) := by
  have hsignal := isSignal_paddedHalt 4094
  have hroom : Frame.maxBody < (paddedHalt 4094).utf8ByteSize := by
    rw [utf8ByteSize_paddedHalt]
    decide
  refine ⟨⟨rfl, records_twoRecordsCursor.2, length_records_twoRecordsCursor, by decide, by decide,
    fun halt unavailable ↦ ⟨tracks_twoTurns halt unavailable,
      fun h ↦ serves_twoTurns h unavailable⟩⟩,
    ⟨isSignal_S05, verdictOnTwo_of_long_block (by decide)⟩,
    ⟨hsignal, verdictOnTwo_of_long_halt hsignal (hash_notMem_paddedHalt _) hroom⟩,
    ⟨?_, ?_⟩, ?_, ?_⟩
  · exact ⟨_, _, _, _, rfl, .inl rfl, rfl, rfl⟩
  · exact verdictOnTwo_of_engage rfl
  · exact verdictOnTwo_of_engage rfl
  · exact verdictOnTwo_of_reach (Prod.ext rfl rfl) rfl

end Lockstep
