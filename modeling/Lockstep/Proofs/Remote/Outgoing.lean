import Lockstep.Proofs.Register.Word
import Lockstep.Proofs.Remote.Chronicle

namespace Lockstep

namespace Frame

theorem length_of_read {source rest : Source} {text : String} (h : read source = (.ok text, rest)) :
    rest.bytes.length < source.bytes.length := by
  simp only [read] at h
  rcases hr : readBytes (ending source.failure) source.bytes with ⟨result, bytes⟩
  rw [hr] at h
  obtain ⟨rfl, rfl⟩ := Prod.mk.inj h
  obtain ⟨packet, ⟨acks, high, low, rfl, -⟩, hb⟩ := readBytes_eq_ok_iff.mp hr
  rw [hb]
  simp
  omega

/-- All the packets that can be read, and the error that ends the reading. -/
def readAll (source : Source) : List String × SessionError :=
  match h : read source with
  | (.error error, _) => ([], error)
  | (.ok text, rest) =>
    have := length_of_read h
    let (texts, error) := readAll rest
    (text :: texts, error)
termination_by source.bytes.length

variable {source rest : Source} {text : String} {error : SessionError}

theorem readAll_of_error (h : read source = (.error error, rest)) : readAll source = ([], error) := by
  rw [readAll]
  split
  · rename_i error' rest' h'
    rw [h] at h'
    cases h'
    rfl
  · rename_i text rest' h'
    rw [h] at h'
    cases h'

theorem readAll_of_ok (h : read source = (.ok text, rest)) :
    readAll source = (text :: (readAll rest).1, (readAll rest).2) := by
  rw [readAll]
  split
  · rename_i error' rest' h'
    rw [h] at h'
    cases h'
  · rename_i text' rest' h'
    rw [h] at h'
    cases h'
    rfl

theorem readAll_acks (acks : Nat) :
    readAll ⟨List.replicate acks plus, none⟩ = ([], ending none) := by
  have hs : findStart (ending none) (List.replicate acks plus) = (.error (ending none), []) := by
    rw [← List.append_nil (List.replicate acks plus), findStart_append_acks, findStart]
  have hr : read ⟨List.replicate acks plus, none⟩ = (.error (ending none), ⟨[], none⟩) := by
    simp only [read, readBytes, hs]
  exact readAll_of_error hr

theorem readAll_ofText (acks : Nat) (hf : Fits text) (unread : List UInt8) :
    readAll ⟨List.replicate acks plus ++ (Text.utf8 (ofText text) ++ unread), none⟩ =
      (text :: (readAll ⟨unread, none⟩).1, (readAll ⟨unread, none⟩).2) :=
  readAll_of_ok (read_ofText acks hf unread none)

end Frame

theorem Command.fits_text (command : Command) : Frame.Fits command.text := by
  have hb : ∀ letter address, (letter = 'Z' ∨ letter = 'z') →
      Frame.Fits (breakpoint letter address) := by
    intro letter address hl
    have hc : ∀ c ∈ letter :: '1' :: ',' :: (address.shortText ++ [',', '1']),
        c ≠ '#' ∧ c.toNat < 128 := by
      intro c hc
      simp only [List.mem_cons, List.mem_append, List.not_mem_nil, or_false] at hc
      obtain rfl | rfl | rfl | hd | rfl | rfl := hc
      · obtain rfl | rfl := hl <;> decide
      · decide
      · decide
      · have hr := Hex.range_of_isDigit (address.isDigit_of_mem_shortText hd)
        refine ⟨?_, by omega⟩
        rintro rfl
        exact absurd hr.1 (by decide)
      · decide
      · decide
    refine ⟨?_, ?_⟩
    · rw [breakpoint, String.toList_ofList]
      intro hm
      exact (hc _ hm).1 rfl
    · have hl := address.length_shortText_le
      rw [breakpoint, Text.utf8ByteSize_ofList_of_ascii fun c hm ↦ (hc c hm).2, Frame.maxBody]
      simp only [List.length_cons, List.length_append, List.length_nil]
      omega
  cases command with
  | placeBreakpoint address => exact hb 'Z' address (.inl rfl)
  | removeBreakpoint address => exact hb 'z' address (.inr rfl)
  | _ => decide

def Transmission.issued? : Transmission → Option Command
  | .command issued => some issued
  | .acknowledgement => none

theorem Frame.readAll_transmissions (acks : Nat) (transmissions : List Transmission) :
    readAll ⟨List.replicate acks plus ++
        Text.utf8 (String.join (transmissions.map Transmission.text)), none⟩ =
      ((transmissions.filterMap Transmission.issued?).map Command.text, ending none) := by
  induction transmissions generalizing acks with
  | nil =>
    have hn : Text.utf8 (String.join ([].map Transmission.text)) = [] := rfl
    rw [hn, List.append_nil, readAll_acks]
    rfl
  | cons transmission transmissions ih =>
    rw [List.map_cons, String.join_cons, Text.utf8_append]
    cases transmission with
    | command issued =>
      rw [Transmission.text, readAll_ofText acks issued.fits_text]
      rw [← List.nil_append (Text.utf8 (String.join _)), ← List.replicate_zero, ih 0]
      rfl
    | acknowledgement =>
      have hp : Text.utf8 Transmission.acknowledgement.text = List.replicate 1 plus := by decide
      rw [hp, ← List.append_assoc, ← List.replicate_add, ih (acks + 1)]
      rfl

theorem Exchange.issued_transmissions (exchanges : List Exchange) :
    (exchanges.flatMap transmissions).filterMap Transmission.issued? =
      (exchanges.filter isSent).map Exchange.command := by
  induction exchanges with
  | nil => rfl
  | cons exchange exchanges ih =>
    rw [List.flatMap_cons, List.filterMap_append, ih, transmissions, List.filter_cons]
    cases exchange.isSent with
    | false => rfl
    | true => cases exchange.reply? <;> rfl

/-- The bytes of a command, and of the acknowledgement of its reply. -/
def Exchange.text (exchange : Exchange) : String :=
  if exchange.isSent then
    Frame.ofText exchange.command.text ++ if exchange.reply?.isSome then "+" else ""
  else ""

theorem Exchange.join_transmissions (exchanges : List Exchange) :
    String.join ((exchanges.flatMap transmissions).map Transmission.text) =
      String.join (exchanges.map text) := by
  induction exchanges with
  | nil => rfl
  | cons exchange exchanges ih =>
    have hj : String.join (exchange.transmissions.map Transmission.text) = exchange.text := by
      rw [transmissions, text]
      cases exchange.isSent with
      | false => rfl
      | true => cases exchange.reply? <;> simp [String.join_cons, Transmission.text]
    rw [List.flatMap_cons, List.map_append, String.join_append, ih, hj, List.map_cons,
      String.join_cons]

/-- Whatever is said on a connection begins with three requests. Each waits for the reply before it,
and nothing else is said until the last of them has been answered. -/
structure Opens (said : List Said) : Prop where
  commands : (said.map Prod.fst).take 3 <+: [.features, .haltReason, .isAttached]
  accepted : ∀ i < 3, ∀ h : i + 1 < said.length, ∃ reply, said[i].2 = some (.ok reply)
  halted : ∀ h : 2 < said.length, ∃ reply stop,
    said[1].2 = some (.ok reply) ∧ StopReply.parse? reply = some stop

def Greeted (said : List Said) : Prop :=
  ∃ greeting later, said = greeting ++ later ∧ Greets greeting (.ok ())

theorem Opens.of_greeted {said : List Said} (h : Greeted said) : Opens said := by
  obtain ⟨greeting, later, rfl, hg⟩ := h
  cases hg with
  | attached features attached hp =>
    refine ⟨List.prefix_rfl, ?_, fun _ ↦ ⟨_, _, rfl, hp⟩⟩
    intro i hi _
    match i with
    | 0 => exact ⟨_, rfl⟩
    | 1 => exact ⟨_, rfl⟩
    | 2 => exact ⟨_, rfl⟩

theorem Opens.of_greets {said : List Said} {error : SessionError}
    (h : Greets said (.error error)) : Opens said := by
  have hc := (List.take_prefix 3 _).trans h.commands_prefix
  cases h with
  | noFeatures => exact ⟨hc, by simp, by simp⟩
  | noHalt features =>
    refine ⟨hc, ?_, by simp⟩
    intro i _ h
    obtain rfl : i = 0 := Nat.lt_one_iff.mp (Nat.lt_of_succ_lt_succ h)
    exact ⟨features, rfl⟩
  | badHalt features hp =>
    refine ⟨hc, ?_, by simp⟩
    intro i _ h
    obtain rfl : i = 0 := Nat.lt_one_iff.mp (Nat.lt_of_succ_lt_succ h)
    exact ⟨features, rfl⟩
  | notAttached features error hp =>
    refine ⟨hc, ?_, fun _ ↦ ⟨_, _, rfl, hp⟩⟩
    intro i _ h
    match i with
    | 0 => exact ⟨features, rfl⟩
    | 1 => exact ⟨_, rfl⟩
    | i + 2 =>
      have hl : i + 2 + 1 < 3 := h
      omega

theorem Greeted.append {said : List Said} (h : Greeted said) (more : List Said) :
    Greeted (said ++ more) := by
  obtain ⟨greeting, later, rfl, hg⟩ := h
  exact ⟨greeting, later ++ more, List.append_assoc .., hg⟩

namespace Exchange

def saidOn (history : List Exchange) (number : Nat) : List Said :=
  (on history number).map said

theorem saidOn_talk {link finish : Link} {exchanges : List Exchange}
    (ht : link.Talks exchanges finish) (history : List Exchange) :
    saidOn (history ++ exchanges) link.connection.number =
      saidOn history link.connection.number ++ exchanges.map said := by
  rw [saidOn, on_append, ht.on_self, List.map_append]
  rfl

theorem saidOn_aside {link finish : Link} {exchanges : List Exchange}
    (ht : link.Talks exchanges finish) (history : List Exchange) {number : Nat}
    (hn : number ≠ link.connection.number) :
    saidOn (history ++ exchanges) number = saidOn history number := by
  rw [saidOn, on_append, ht.on_other hn, List.append_nil]
  rfl

end Exchange

namespace RemoteSession

/-- Each connection of a session began with a greeting, and the one that is kept was welcomed. -/
structure Courteous (session : RemoteSession) (history : List Exchange) : Prop where
  opens : ∀ number < session.wire.received.length, Opens (Exchange.saidOn history number)
  greeted : ∀ connection, session.connection = some connection →
    Greeted (Exchange.saidOn history connection.number)

variable {queue : List Reaction} {session finish : RemoteSession} {history exchanges : List Exchange}
  {call : Call} {calls : List Call} {result : Except SessionError Unit}

theorem Courteous.opens_new {link : Link} (h : Courteous session history)
    (hc : Chronicle queue session.wire history) (ht : session.wire.opened.Talks exchanges link)
    (ho : Opens (exchanges.map Exchange.said)) :
    ∀ number < link.wire.received.length, Opens (Exchange.saidOn (history ++ exchanges) number) := by
  intro number hn
  rw [ht.length_received, Wire.length_opened] at hn
  by_cases he : number = session.wire.opened.connection.number
  · subst he
    rw [Exchange.saidOn_talk ht, Exchange.saidOn, hc.on_opened]
    exact ho
  · rw [Exchange.saidOn_aside ht _ he]
    exact h.opens number (Nat.lt_of_le_of_ne (Nat.le_of_lt_succ hn) he)

theorem Courteous.of_talks {connection : Connection} {link : Link} (h : Courteous session history)
    (hc : session.connection = some connection)
    (ht : Link.Talks ⟨session.wire, connection⟩ exchanges link) :
    Courteous { session with wire := link.wire, connection := some link.connection }
      (history ++ exchanges) := by
  have hg : Greeted (Exchange.saidOn (history ++ exchanges) connection.number) := by
    have hs := Exchange.saidOn_talk ht history
    rw [hs]
    exact (h.greeted connection hc).append _
  constructor
  · intro number hn
    rw [ht.length_received] at hn
    by_cases he : number = connection.number
    · exact he ▸ .of_greeted hg
    · rw [Exchange.saidOn_aside ht history he]
      exact h.opens number hn
  · intro other ho
    obtain rfl := Option.some.inj ho
    rw [ht.hears.number_eq]
    exact hg

theorem Courteous.of_does (h : Courteous session history) (hr : Recounts queue session history)
    (hd : Does session call exchanges result finish) : Courteous finish (history ++ exchanges) := by
  cases hd with
  | configured settings result hw hc hp =>
    rw [List.append_nil]
    exact ⟨hw ▸ h.opens, hc ▸ h.greeted⟩
  | unreachable =>
    rw [List.append_nil]
    exact h
  | notGreeted hs ht hg =>
    obtain ⟨-, rfl⟩ := Wire.connect_eq_ok_iff.mp hs
    refine ⟨h.opens_new hr.chronicle ht (.of_greets hg), ?_⟩
    intro connection hc
    rw [Exchange.saidOn_aside ht history (hr.current connection hc).connect.2]
    exact h.greeted connection hc
  | greeted hs ht hg =>
    obtain ⟨-, rfl⟩ := Wire.connect_eq_ok_iff.mp hs
    have hgreeted : Greeted (exchanges.map Exchange.said) := ⟨_, [], (List.append_nil _).symm, hg⟩
    refine ⟨h.opens_new hr.chronicle ht (.of_greeted hgreeted), ?_⟩
    intro connection hc
    obtain rfl := Option.some.inj hc
    rw [ht.hears.number_eq, Exchange.saidOn_talk ht, Exchange.saidOn, hr.chronicle.on_opened]
    exact hgreeted
  | unattached =>
    rw [List.append_nil]
    exact h
  | idle =>
    rw [List.append_nil]
    exact h
  | acted hc ht ha => exact ⟨(h.of_talks hc ht).opens, (h.of_talks hc ht).greeted⟩
  | detached result hc ht hcommand => exact ⟨(h.of_talks hc ht).opens, by simp⟩

theorem Courteous.of_runs {later : List Exchange} (h : Courteous session history)
    (hr : Recounts queue session history) (hruns : Runs session calls later finish) :
    Courteous finish (history ++ later) := by
  induction hruns generalizing history with
  | nil =>
    rw [List.append_nil]
    exact h
  | cons hd _ ih =>
    rw [← List.append_assoc]
    exact ih (h.of_does hr hd) (hr.of_does hd)

end RemoteSession

/-- A text that says what went out in exchanges, which a stub can take apart again. Once something
could not be written nothing goes out any more. -/
structure Conveys (sent : String) (exchanges : List Exchange) : Prop where
  written : sent = String.join (exchanges.map Exchange.text)
  readable : Frame.readAll ⟨Text.utf8 sent, none⟩ =
    ((exchanges.filter Exchange.isSent).map (·.command.text),
      .protocol "connection closed by stub")
  ended : exchanges.Pairwise fun earlier later ↦
    earlier.course.isBroken = true → later.isSent = false

theorem conveys_transmissions {exchanges : List Exchange} {start finish : Connection}
    (h : start.Hears exchanges finish) :
    Conveys (String.join ((exchanges.flatMap Exchange.transmissions).map Transmission.text))
      exchanges where
  written := Exchange.join_transmissions exchanges
  readable := by
    have hr := Frame.readAll_transmissions 0 (exchanges.flatMap Exchange.transmissions)
    rw [Exchange.issued_transmissions, List.map_map] at hr
    exact hr
  ended := h.pairwise_unsent

/-- Whatever is asked of a session, and whatever the stub does, all that went out on each connection
can be read back as the commands of its exchanges. Those whose reply was accepted, and no others, are
followed by an acknowledgement, and the first are the greeting. -/
theorem RemoteSession.conveys_of_calls (listening : List Endpoint) (queue : List Reaction)
    (calls : List Call) :
    let start : RemoteSession := { wire := { listening, reactions := queue } }
    let finish := Debugger.afterCalls calls start
    ∃ history, Runs start calls history finish ∧ Chronicle queue finish.wire history ∧
      ∀ number sent, finish.wire.sent[number]? = some sent →
        Conveys sent (Exchange.on history number) ∧
          Opens ((Exchange.on history number).map Exchange.said) := by
  intro start finish
  obtain ⟨history, hruns⟩ := start.exists_runs calls
  have hr := (recounts_new listening queue).of_runs hruns
  have hc : Courteous start [] := ⟨by simp [start], by simp [start]⟩
  refine ⟨history, hruns, hr.chronicle, ?_⟩
  intro number sent hs
  have hn : number < finish.wire.received.length := by
    have := (List.getElem?_eq_some_iff.mp hs).1
    rwa [Wire.sent, List.length_map] at this
  refine ⟨?_, (hc.of_runs (recounts_new listening queue) hruns).opens number hn⟩
  rw [Wire.sent, List.getElem?_map, hr.chronicle.received number hn] at hs
  obtain rfl := Option.some.inj hs
  obtain ⟨connection, hheard⟩ := hr.chronicle.heard number
  exact conveys_transmissions hheard

/-- The second reply is read, but it cannot be acknowledged any more. -/
example :
    let halt : Reaction := { Reaction.reply "S05" with breaks := some ⟨0, .other "Broken pipe"⟩ }
    let session : RemoteSession :=
      { wire := { listening := [⟨"localhost", 1337⟩], reactions := [.reply "hwbreak+", halt] } }
    let run := Debugger.perform (.attach defaultEndpoint) session
    run.1 = .error (.io (.other "Broken pipe")) ∧
      run.2.wire.received = [[.command .features, .acknowledgement, .command .haltReason]] :=
  ⟨rfl, rfl⟩

end Lockstep
