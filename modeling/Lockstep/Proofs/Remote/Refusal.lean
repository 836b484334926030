import Lockstep.Proofs.Remote.Stub

namespace Lockstep

namespace RemoteSession

variable {settings : Settings} {link mid next : Link} {wire : Wire} {address : String}
  {error : SessionError}

theorem dump_of_error (h : Link.request .registers link = (.error error, next)) :
    RemoteSession.dump (ofLink settings none link) = (.error error, ofLink settings none next) := by
  refine Attempt.bind_eq_error_iff.mpr (.inl ?_)
  simp only [onConnection, ofLink, h]

theorem engage_of_halt_error {start : Link} {features : String}
    (ha : RegisterBlock.layout? settings.architecture = some Register.all)
    (hc : wire.connect address = .ok (start.wire, start.connection))
    (hf : Link.request .features start = (.ok features, mid))
    (hh : Link.request .haltReason mid = (.error error, next)) :
    ∃ session, Debugger.engage settings address ({ wire } : RemoteSession) =
      (.error error, session) := by
  have hs : Link.handshake start = (.error error, next) :=
    Attempt.bind_eq_error_iff.mpr (.inr ⟨features, mid, hf,
      Attempt.bind_eq_error_iff.mpr (.inl hh)⟩)
  have hattach : attach address { wire, settings, layout := Register.all } =
      (.error error, { wire := next.wire, settings, layout := Register.all }) := by
    simp only [attach, hc, hs]
  exact ⟨_, Attempt.bind_eq_error_iff.mpr
    (.inr ⟨⟨⟩, _, configure_iff.mpr ⟨ha, rfl⟩, hattach⟩)⟩

end RemoteSession

namespace Stub

variable {stub : Stub} {wire : Wire} {address : String} {settings : Settings} {cursor : Cursor}

theorem engage_of_long_halt (h : stub.Serves wire address)
    (ha : RegisterBlock.layout? settings.architecture = some Register.all)
    (hf : Frame.Fits stub.greeting.features) (hn : '#' ∉ stub.greeting.halt.toList)
    (hlong : Frame.maxBody < stub.greeting.halt.utf8ByteSize) :
    ∃ session, Debugger.engage settings address ({ wire } : RemoteSession) =
      (.error (.protocol "packet too long"), session) := by
  obtain ⟨answers, rest, hr, hanswers⟩ := h.answers
  simp only [replies, Greeting.replies, List.cons_append, List.nil_append,
    List.forall₂_cons_right_iff] at hanswers
  obtain ⟨a₁, _, h₁, ⟨a₂, later, h₂, -, rfl⟩, rfl⟩ := hanswers
  obtain ⟨mid, hm, hquiet, hleft⟩ :=
    Link.request_of_answers .features (Link.isQuiet_opened wire) hr h₁ hf
  obtain ⟨next, hnext⟩ := Link.request_of_long .haltReason hquiet hleft h₂ hn hlong
  exact RemoteSession.engage_of_halt_error ha (Wire.connect_eq_ok_iff.mpr ⟨h.listens, rfl⟩) hm hnext

/-- A block for which there is no room ends a check, whatever state it shows. -/
theorem ends_of_long_block (h : stub.Serves wire address)
    (ha : RegisterBlock.layout? settings.architecture = some Register.all)
    (hl : settings.resumeLimit ≠ some ⟨0⟩) {k : Nat} {record : Record} {turn : Turn}
    (hrecord : cursor.records[k]? = some record) (hturn : stub.turns[k]? = some turn)
    (hf : ∀ reply ∈ stub.greeting.replies ++ (stub.turns.take k).flatMap (·.round.replies),
      Frame.Fits reply)
    (hstop : Frame.Fits turn.stop) (hlong : Frame.maxBody < 24 + turn.unavailable)
    (ht : Tracks (stub.states.take k) (cursor.records.take k)) :
    ∃ final : Checker RemoteSession, Ends cursor settings address { wire }
      (.error (.session (.protocol "packet too long"))) final := by
  obtain ⟨hkr, hrecord⟩ := List.getElem?_eq_some_iff.mp hrecord
  obtain ⟨hkt, hturn⟩ := List.getElem?_eq_some_iff.mp hturn
  have hr : cursor.records = cursor.records.take k ++ record :: cursor.records.drop (k + 1) := by
    rw [← hrecord]
    simp
  have hd : stub.turns.drop k = turn :: stub.turns.drop (k + 1) := by
    rw [← hturn]
    simp
  have hn : ((cursor.records.take k).map Record.pc).length = k := by
    rw [List.length_map, List.length_take, Nat.min_eq_left hkr.le]
  obtain ⟨finish, hs, -, hquiet, answers, rest, hleft, hanswers⟩ :=
    survey_of_serves h ha hl hkt.le hf hn
  rw [hd, List.flatMap_cons] at hanswers
  simp only [Round.replies, List.cons_append, List.nil_append, List.forall₂_cons_right_iff]
    at hanswers
  obtain ⟨a₁, _, h₁, ⟨a₂, _, h₂, ⟨a₃, _, h₃, ⟨a₄, later, h₄, -, rfl⟩, rfl⟩, rfl⟩, rfl⟩ := hanswers
  have hfits : ∀ reply ∈ ["OK", turn.stop, "OK"], Frame.Fits reply := by
    have hok : Frame.Fits "OK" := by decide
    simpa using ⟨hok, hstop, hok⟩
  have hthree : List.Forall₂ Reaction.Answers [a₁, a₂, a₃] ["OK", turn.stop, "OK"] :=
    .cons h₁ (.cons h₂ (.cons h₃ .nil))
  have hsplit : finish.wire.reactions = [a₁, a₂, a₃] ++ a₄ :: (later ++ rest) := hleft
  obtain ⟨code, hp⟩ := (h.stopped turn (List.mem_of_getElem hturn)).parse
  obtain ⟨mid, hm, hmid, hlast⟩ := Link.requests_of_answers
    [.placeBreakpoint record.pc, .go, .removeBreakpoint record.pc] hquiet hsplit hthree hfits rfl
  have hn := RegisterBlock.hash_notMem_ofRegisters turn.state turn.unavailable
  rw [← RegisterBlock.utf8ByteSize_ofRegisters turn.state] at hlong
  obtain ⟨next, hnext⟩ := Link.request_of_long .registers hmid hlast h₄ hn hlong
  exact ⟨_, .notDumped hr ⟨_, hs, Tracks.agree_iff.mpr ht⟩
    (RemoteSession.reach_ofLink_iff.mpr ⟨hl, _, code, mid, hm, hp, rfl⟩)
    (RemoteSession.dump_of_error hnext)⟩

end Stub

end Lockstep
