import Lockstep.Proofs.Checker.Survey
import Lockstep.Proofs.Remote.Replies
import Lockstep.Remote.Session

namespace Lockstep

def Command.greeting : List Command := [.features, .haltReason, .isAttached]

def Command.round (pc : Word) : List Command :=
  [.placeBreakpoint pc, .go, .removeBreakpoint pc, .registers]

/-- The requests of a check, with one more if the target is let go at the end. -/
def Command.check (pcs : List Word) (released : Bool) : List Command :=
  greeting ++ (pcs.flatMap round ++ if released then [.detach] else [])

theorem Command.length_rounds (pcs : List Word) :
    (pcs.flatMap Command.round).length = 4 * pcs.length := by
  induction pcs with
  | nil => rfl
  | cons pc pcs ih =>
    rw [List.flatMap_cons, List.length_append, ih, List.length_cons]
    simp only [Command.round, List.length_cons, List.length_nil]
    omega

theorem Link.requests_check {pcs : List Word} {start mid finish : Link} {replies : List String}
    {reply : String}
    (hr : requests (Command.greeting ++ pcs.flatMap Command.round) start = (.ok replies, mid))
    (hd : request .detach mid = (.ok reply, finish)) :
    requests (Command.check pcs true) start = (.ok (replies ++ [reply]), finish) := by
  rw [Command.check, ← List.append_assoc]
  exact requests_append_iff.mpr ⟨_, _, mid, hr, requests_singleton_iff.mpr hd, rfl⟩

structure Greeting where
  features : String
  halt : String
  attached : String

def Greeting.replies (greeting : Greeting) : List String :=
  [greeting.features, greeting.halt, greeting.attached]

structure Round where
  stop : String
  block : String

namespace Round

def replies (round : Round) : List String := ["OK", round.stop, "OK", round.block]

theorem length_flatMap_replies (rounds : List Round) :
    (rounds.flatMap replies).length = 4 * rounds.length := by
  induction rounds with
  | nil => rfl
  | cons round rounds ih =>
    rw [List.flatMap_cons, List.length_append, ih, List.length_cons]
    simp only [replies, List.length_cons, List.length_nil]
    omega

/-- The target stopped at a signal, and a dump was made of its registers. -/
def Yields (round : Round) (dump : String) : Prop :=
  (∃ code, StopReply.parse? round.stop = some (.signal code)) ∧
    RemoteSession.readRegisters Register.all round.block = .ok dump

end Round

namespace RemoteSession

def ofLink (settings : Settings) (pending : Option Word) (link : Link) : RemoteSession where
  wire := link.wire
  connection := some link.connection
  settings := settings
  pending := pending

variable {settings : Settings} {pending : Option Word} {link : Link} {after : RemoteSession}
  {pc : Word} {dump : String}

theorem onConnection_ofLink_iff {α : Type} {action : Attempt SessionError Link α} {a : α} :
    onConnection action (ofLink settings pending link) = (.ok a, after) ↔
      ∃ next, action link = (.ok a, next) ∧ after = ofLink settings pending next := by
  have ho : onConnection action (ofLink settings pending link) =
      ((action link).1, ofLink settings pending (action link).2) := rfl
  rw [ho, Attempt.pair_eq_iff]
  constructor
  · rintro ⟨h, rfl⟩
    exact ⟨_, Prod.ext h rfl, rfl⟩
  · rintro ⟨next, h, rfl⟩
    rw [h]
    exact ⟨rfl, rfl⟩

theorem breakAt_ofLink_iff :
    breakAt pc (ofLink settings pending link) = (.ok (), after) ↔
      ∃ next, Link.request (.placeBreakpoint pc) link = (.ok "OK", next) ∧
        after = ofLink settings (some pc) next := by
  simp only [breakAt, Attempt.bind_eq_ok_iff, onConnection_ofLink_iff,
    ← Link.requestOk_eq_ok_iff]
  constructor
  · rintro ⟨⟨⟩, _, ⟨next, hr, rfl⟩, hs⟩
    obtain ⟨-, rfl⟩ := Attempt.pair_eq_iff.mp hs
    exact ⟨next, hr, rfl⟩
  · rintro ⟨next, hr, rfl⟩
    exact ⟨⟨⟩, _, ⟨next, hr, rfl⟩, rfl⟩

theorem clearPending_ofLink_iff :
    clearPending (ofLink settings (some pc) link) = (.ok (), after) ↔
      ∃ next, Link.request (.removeBreakpoint pc) link = (.ok "OK", next) ∧
        after = ofLink settings none next := by
  have hc : clearPending (ofLink settings (some pc) link) =
      onConnection (Link.requestOk (.removeBreakpoint pc)) (ofLink settings none link) := rfl
  rw [hc, onConnection_ofLink_iff]
  simp only [Link.requestOk_eq_ok_iff]

theorem resume_ofLink_iff :
    resume (ofLink settings (some pc) link) = (.ok (), after) ↔
      settings.resumeLimit ≠ some ⟨0⟩ ∧ ∃ stop code mid next,
        Link.request .go link = (.ok stop, mid) ∧
        StopReply.parse? stop = some (.signal code) ∧
        Link.request (.removeBreakpoint pc) mid = (.ok "OK", next) ∧
        after = ofLink settings none next := by
  simp only [resume, Attempt.bind_eq_ok_iff]
  constructor
  · rintro ⟨_, _, hg, stop, s, hs, hc⟩
    obtain ⟨hg, rfl⟩ := Attempt.pair_eq_iff.mp hg
    cases hg
    obtain ⟨mid, hm, rfl⟩ := onConnection_ofLink_iff.mp hs
    obtain ⟨hl, reply, hr, hp⟩ := Link.go_eq_ok_iff.mp hm
    cases stop with
    | signal code =>
      obtain ⟨next, hn, rfl⟩ := clearPending_ofLink_iff.mp hc
      exact ⟨hl, reply, code, mid, next, hr, hp, hn, rfl⟩
    | exited status => simp [Attempt.throw_apply] at hc
    | terminated signal => simp [Attempt.throw_apply] at hc
  · rintro ⟨hl, reply, code, mid, next, hr, hp, hn, rfl⟩
    refine ⟨_, _, rfl, .signal code, ofLink settings (some pc) mid, ?_, ?_⟩
    · exact onConnection_ofLink_iff.mpr ⟨mid, Link.go_eq_ok_iff.mpr ⟨hl, reply, hr, hp⟩, rfl⟩
    · exact clearPending_ofLink_iff.mpr ⟨next, hn, rfl⟩

theorem dump_ofLink_iff :
    RemoteSession.dump (ofLink settings pending link) = (.ok dump, after) ↔
      ∃ block next, Link.request .registers link = (.ok block, next) ∧
        readRegisters Register.all block = .ok dump ∧ after = ofLink settings pending next := by
  simp only [RemoteSession.dump, Attempt.bind_eq_ok_iff, Attempt.get_apply,
    onConnection_ofLink_iff, Attempt.ofExcept_apply, Attempt.pair_eq_iff]
  constructor
  · rintro ⟨block, _, ⟨next, hr, rfl⟩, _, _, ⟨hs, rfl⟩, hd, rfl⟩
    cases hs
    exact ⟨block, next, hr, hd, rfl⟩
  · rintro ⟨block, next, hr, hd, rfl⟩
    exact ⟨block, _, ⟨next, hr, rfl⟩, _, _, ⟨rfl, rfl⟩, hd, rfl⟩

theorem disconnect_ofLink_iff :
    disconnect (ofLink settings pending link) = (.ok (), after) ↔
      ∃ next, Link.request .detach link = (.ok "OK", next) ∧
        after = { ofLink settings pending next with connection := none } := by
  have hd : disconnect (ofLink settings pending link) = ((Link.requestOk .detach link).1,
      { ofLink settings pending (Link.requestOk .detach link).2 with connection := none }) := rfl
  simp only [← Link.requestOk_eq_ok_iff]
  rw [hd, Attempt.pair_eq_iff]
  constructor
  · rintro ⟨h, rfl⟩
    exact ⟨_, Prod.ext h rfl, rfl⟩
  · rintro ⟨next, h, rfl⟩
    rw [h]
    exact ⟨rfl, rfl⟩

theorem reach_ofLink_iff :
    Debugger.reach pc (ofLink settings none link) = (.ok (), after) ↔
      settings.resumeLimit ≠ some ⟨0⟩ ∧ ∃ stop code next,
        Link.requests [.placeBreakpoint pc, .go, .removeBreakpoint pc] link =
          (.ok ["OK", stop, "OK"], next) ∧
        StopReply.parse? stop = some (.signal code) ∧ after = ofLink settings none next := by
  simp only [Debugger.reach, Attempt.bind_eq_ok_iff, Link.requests_cons_iff, Link.requests_nil_iff]
  constructor
  · rintro ⟨⟨⟩, s, hb, hr⟩
    obtain ⟨l₁, hp, rfl⟩ := breakAt_ofLink_iff.mp hb
    obtain ⟨hl, stop, code, l₂, l₃, hg, hs, hc, rfl⟩ := resume_ofLink_iff.mp hr
    exact ⟨hl, stop, code, l₃, ⟨_, _, l₁, hp, ⟨_, _, l₂, hg, ⟨_, _, l₃, hc, ⟨rfl, rfl⟩, rfl⟩, rfl⟩,
      rfl⟩, hs, rfl⟩
  · rintro ⟨hl, stop, code, next, ⟨_, _, l₁, hp, ⟨_, _, l₂, hg, ⟨_, _, l₃, hc, ⟨rfl, rfl⟩, rfl⟩,
      rfl⟩, he⟩, hs, rfl⟩
    simp only [List.cons.injEq, and_true] at he
    obtain ⟨rfl, rfl, rfl⟩ := he
    refine ⟨⟨⟩, ofLink settings (some pc) l₁, breakAt_ofLink_iff.mpr ⟨l₁, hp, rfl⟩, ?_⟩
    exact resume_ofLink_iff.mpr ⟨hl, stop, code, l₂, next, hg, hs, hc, rfl⟩

theorem sample_ofLink_iff :
    Debugger.sample pc (ofLink settings none link) = (.ok dump, after) ↔
      settings.resumeLimit ≠ some ⟨0⟩ ∧ ∃ round : Round, ∃ next,
        Link.requests (Command.round pc) link = (.ok round.replies, next) ∧
        round.Yields dump ∧ after = ofLink settings none next := by
  have hr : Command.round pc = [.placeBreakpoint pc, .go, .removeBreakpoint pc] ++ [.registers] :=
    rfl
  rw [Debugger.sample, Attempt.bind_eq_ok_iff, hr]
  constructor
  · rintro ⟨⟨⟩, s, hs, hd⟩
    obtain ⟨hl, stop, code, mid, hm, hp, rfl⟩ := reach_ofLink_iff.mp hs
    obtain ⟨block, next, hb, hread, rfl⟩ := dump_ofLink_iff.mp hd
    refine ⟨hl, ⟨stop, block⟩, next, ?_, ⟨⟨code, hp⟩, hread⟩, rfl⟩
    exact Link.requests_append_iff.mpr ⟨_, _, mid, hm, Link.requests_singleton_iff.mpr hb, rfl⟩
  · rintro ⟨hl, round, next, hreq, ⟨⟨code, hp⟩, hread⟩, rfl⟩
    obtain ⟨earlier, later, mid, hm, hb, he⟩ := Link.requests_append_iff.mp hreq
    have hsplit : round.replies = ["OK", round.stop, "OK"] ++ [round.block] := rfl
    obtain ⟨rfl, rfl⟩ := List.append_inj (hsplit.symm.trans he) (Link.length_of_requests hm).symm
    refine ⟨⟨⟩, ofLink settings none mid, ?_, ?_⟩
    · exact reach_ofLink_iff.mpr ⟨hl, round.stop, code, mid, hm, hp, rfl⟩
    · exact dump_ofLink_iff.mpr ⟨round.block, next, Link.requests_singleton_iff.mp hb, hread, rfl⟩

variable {wire : Wire} {address : String} {pcs : List Word} {dumps : List String}

theorem rounds_of_samples
    (h : pcs.mapM Debugger.sample (ofLink settings none link) = (.ok dumps, after)) :
    ∃ rounds finish, Link.requests (pcs.flatMap Command.round) link =
        (.ok (rounds.flatMap Round.replies), finish) ∧
      List.Forall₂ Round.Yields rounds dumps ∧ after = ofLink settings none finish := by
  induction pcs generalizing link dumps with
  | nil =>
    obtain ⟨hd, rfl⟩ := Attempt.pair_eq_iff.mp h
    cases hd
    exact ⟨[], link, Link.requests_nil_iff.mpr ⟨rfl, rfl⟩, .nil, rfl⟩
  | cons pc pcs ih =>
    rw [List.mapM_cons, Attempt.bind_eq_ok_iff] at h
    obtain ⟨dump, s, hs, h⟩ := h
    obtain ⟨dumps, s', hs', h⟩ := Attempt.bind_eq_ok_iff.mp h
    obtain ⟨hd, rfl⟩ := Attempt.pair_eq_iff.mp h
    cases hd
    obtain ⟨-, round, mid, hr, hy, rfl⟩ := sample_ofLink_iff.mp hs
    obtain ⟨rounds, finish, hrs, hys, rfl⟩ := ih hs'
    exact ⟨round :: rounds, finish, Link.requests_append_iff.mpr ⟨_, _, mid, hr, hrs, rfl⟩,
      .cons hy hys, rfl⟩

theorem samples_of_rounds {rounds : List Round} {finish : Link}
    (hl : settings.resumeLimit ≠ some ⟨0⟩) (hn : pcs.length = rounds.length)
    (hr : Link.requests (pcs.flatMap Command.round) link =
      (.ok (rounds.flatMap Round.replies), finish))
    (hy : List.Forall₂ Round.Yields rounds dumps) :
    pcs.mapM Debugger.sample (ofLink settings none link) = (.ok dumps, ofLink settings none finish) := by
  induction hy generalizing pcs link with
  | nil =>
    obtain rfl := List.length_eq_zero_iff.mp hn
    obtain ⟨-, rfl⟩ := Link.requests_nil_iff.mp hr
    rfl
  | @cons round dump rounds dumps hy _ ih =>
    obtain ⟨pc, pcs, rfl⟩ := List.exists_cons_of_length_eq_add_one hn
    obtain ⟨earlier, later, mid, he, hf, hs⟩ := Link.requests_append_iff.mp hr
    obtain ⟨rfl, rfl⟩ := List.append_inj hs (Link.length_of_requests he).symm
    rw [List.mapM_cons, Attempt.bind_eq_ok_iff]
    refine ⟨dump, _, sample_ofLink_iff.mpr ⟨hl, round, mid, he, hy, rfl⟩, ?_⟩
    exact Attempt.bind_eq_ok_iff.mpr ⟨dumps, _, ih (by simpa using hn) hf, rfl⟩

theorem configure_iff {session : RemoteSession} :
    configure settings session = (.ok (), after) ↔
      RegisterBlock.layout? settings.architecture = some Register.all ∧
        after = { session with settings, layout := Register.all } := by
  unfold configure RegisterBlock.layout?
  split
  · dsimp only
    rw [Attempt.modify_apply, Attempt.pair_eq_iff]
    simp [eq_comm]
  · simp [Attempt.throw_apply]

theorem attach_iff {session : RemoteSession} :
    attach address session = (.ok (), after) ↔
      ∃ (start : Link) (greeting : Greeting) (reply : StopReply) (finish : Link),
        session.wire.connect address = .ok (start.wire, start.connection) ∧
        Link.requests Command.greeting start = (.ok greeting.replies, finish) ∧
        StopReply.parse? greeting.halt = some reply ∧
        after = { session with wire := finish.wire, connection := some finish.connection } := by
  unfold attach
  cases hc : session.wire.connect address with
  | error fault => simp
  | ok opened =>
    obtain ⟨wire, connection⟩ := opened
    dsimp only
    rcases hh : Link.handshake ⟨wire, connection⟩ with ⟨error | ⟨⟩, finish⟩
    · constructor
      · intro h
        simp at h
      · rintro ⟨⟨wire', connection'⟩, greeting, reply, finish', hs, hr, hp, -⟩
        obtain ⟨rfl, rfl⟩ := Prod.mk.inj (Except.ok.inj hs)
        rw [Link.handshake_eq_ok_iff.mpr ⟨_, _, _, reply, hr, hp⟩] at hh
        simp at hh
    · constructor
      · intro h
        obtain ⟨-, rfl⟩ := Attempt.pair_eq_iff.mp h
        obtain ⟨features, halt, attached, reply, hr, hp⟩ := Link.handshake_eq_ok_iff.mp hh
        exact ⟨⟨wire, connection⟩, ⟨features, halt, attached⟩, reply, finish, rfl, hr, hp, rfl⟩
      · rintro ⟨⟨wire', connection'⟩, greeting, reply, finish', hs, hr, hp, rfl⟩
        obtain ⟨rfl, rfl⟩ := Prod.mk.inj (Except.ok.inj hs)
        have hf := hh.symm.trans (Link.handshake_eq_ok_iff.mpr ⟨_, _, _, reply, hr, hp⟩)
        obtain ⟨-, rfl⟩ := Attempt.pair_eq_iff.mp hf
        rfl

theorem engage_iff :
    Debugger.engage settings address ({ wire } : RemoteSession) = (.ok (), after) ↔
      RegisterBlock.layout? settings.architecture = some Register.all ∧
      ∃ (start : Link) (greeting : Greeting) (reply : StopReply) (finish : Link),
        wire.connect address = .ok (start.wire, start.connection) ∧
        Link.requests Command.greeting start = (.ok greeting.replies, finish) ∧
        StopReply.parse? greeting.halt = some reply ∧ after = ofLink settings none finish := by
  rw [Debugger.engage, Attempt.bind_eq_ok_iff]
  constructor
  · rintro ⟨⟨⟩, session, hc, ha⟩
    obtain ⟨hl, rfl⟩ := configure_iff.mp hc
    obtain ⟨start, greeting, reply, finish, hs, hr, hp, rfl⟩ := attach_iff.mp ha
    exact ⟨hl, start, greeting, reply, finish, hs, hr, hp, rfl⟩
  · rintro ⟨hl, start, greeting, reply, finish, hs, hr, hp, rfl⟩
    refine ⟨⟨⟩, _, configure_iff.mpr ⟨hl, rfl⟩, ?_⟩
    exact attach_iff.mpr ⟨start, greeting, reply, finish, hs, hr, hp, rfl⟩

/-- Behind dumps there are replies: one greeting, and a round for each dump. -/
theorem replies_of_survey
    (h : Debugger.survey settings address pcs ({ wire } : RemoteSession) = (.ok dumps, after)) :
    ∃ (start : Link) (greeting : Greeting) (reply : StopReply) (rounds : List Round) (finish : Link),
      wire.connect address = .ok (start.wire, start.connection) ∧
      Link.requests (Command.greeting ++ pcs.flatMap Command.round) start =
        (.ok (greeting.replies ++ rounds.flatMap Round.replies), finish) ∧
      StopReply.parse? greeting.halt = some reply ∧
      List.Forall₂ Round.Yields rounds dumps ∧ after = ofLink settings none finish := by
  obtain ⟨⟨⟩, s, he, hs⟩ := Attempt.bind_eq_ok_iff.mp h
  obtain ⟨-, start, greeting, reply, mid, hc, hg, hp, rfl⟩ := engage_iff.mp he
  obtain ⟨rounds, finish, hr, hy, rfl⟩ := rounds_of_samples hs
  exact ⟨start, greeting, reply, rounds, finish, hc,
    Link.requests_append_iff.mpr ⟨_, _, mid, hg, hr, rfl⟩, hp, hy, rfl⟩

theorem survey_of_replies {start finish : Link} {greeting : Greeting} {reply : StopReply}
    {rounds : List Round} (ha : RegisterBlock.layout? settings.architecture = some Register.all)
    (hl : settings.resumeLimit ≠ some ⟨0⟩)
    (hc : wire.connect address = .ok (start.wire, start.connection))
    (hn : pcs.length = rounds.length)
    (hr : Link.requests (Command.greeting ++ pcs.flatMap Command.round) start =
      (.ok (greeting.replies ++ rounds.flatMap Round.replies), finish))
    (hp : StopReply.parse? greeting.halt = some reply)
    (hy : List.Forall₂ Round.Yields rounds dumps) :
    Debugger.survey settings address pcs ({ wire } : RemoteSession) =
      (.ok dumps, ofLink settings none finish) := by
  obtain ⟨earlier, later, mid, hg, hs, he⟩ := Link.requests_append_iff.mp hr
  obtain ⟨rfl, rfl⟩ := List.append_inj he (Link.length_of_requests hg).symm
  have hengage := engage_iff.mpr ⟨ha, start, greeting, reply, mid, hc, hg, hp, rfl⟩
  exact Attempt.bind_eq_ok_iff.mpr ⟨⟨⟩, _, hengage, samples_of_rounds hl hn hs hy⟩

end RemoteSession

end Lockstep
