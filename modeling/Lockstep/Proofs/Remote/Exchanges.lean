import Lockstep.Proofs.Remote.Replies

namespace Lockstep

/-- What comes of a command. It may not go out, or it is not waited for a reply, or what is read is
no reply, or it is one that is acknowledged, unless that does not go out. -/
inductive Course where
  | unsent (fault : Fault)
  | unread (reaction : Reaction)
  | refused (reaction : Reaction) (error : SessionError)
  | unacknowledged (reaction : Reaction) (reply : String) (fault : Fault)
  | accepted (reaction : Reaction) (reply : String)

namespace Course

def reaction? : Course → Option Reaction
  | unsent _ => none
  | unread reaction | refused reaction _ | unacknowledged reaction _ _ | accepted reaction _ =>
    some reaction

def outcome : Course → Option (Except SessionError String)
  | unsent fault | unacknowledged _ _ fault => some (.error (.io fault))
  | unread _ => none
  | refused _ error => some (.error error)
  | accepted _ reply => some (.ok reply)

/-- Something was to be written and did not go out. -/
def isBroken : Course → Bool
  | unsent _ | unacknowledged _ _ _ => true
  | unread _ | refused _ _ | accepted _ _ => false

end Course

abbrev Said := Command × Option (Except SessionError String)

/-- A command on a connection with all that comes of it. -/
structure Exchange where
  connection : Nat
  command : Command
  course : Course

namespace Exchange

/-- The stub's reaction to the command, if it went out. -/
def reaction? (exchange : Exchange) : Option Reaction := exchange.course.reaction?

def outcome (exchange : Exchange) : Option (Except SessionError String) := exchange.course.outcome

/-- The reply that was accepted, if there is one. -/
def reply? (exchange : Exchange) : Option String :=
  match exchange.outcome with
  | some (.ok reply) => some reply
  | _ => none

def isSent (exchange : Exchange) : Bool := exchange.reaction?.isSome

def transmissions (exchange : Exchange) : List Transmission :=
  if exchange.isSent then
    .command exchange.command :: if exchange.reply?.isSome then [.acknowledgement] else []
  else []

def said (exchange : Exchange) : Said :=
  (exchange.command, exchange.outcome)

def reactions (exchanges : List Exchange) : List Reaction :=
  exchanges.filterMap reaction?

theorem reactions_append (exchanges later : List Exchange) :
    reactions (exchanges ++ later) = reactions exchanges ++ reactions later :=
  List.filterMap_append ..

end Exchange

/-- The reactions to so many packets. A stub that has none left hangs up. -/
def Reaction.answers : List Reaction → (packets : Nat) → List Reaction
  | _, 0 => []
  | reactions, packets + 1 => reactions.headD .hangUp :: answers reactions.tail packets

theorem Reaction.answers_add (reactions : List Reaction) (m n : Nat) :
    answers reactions (m + n) = answers reactions m ++ answers (reactions.drop m) n := by
  induction m generalizing reactions with
  | zero => simp [answers]
  | succ m ih => rw [Nat.add_right_comm, answers, ih, answers, List.drop_tail, List.cons_append]

/-- How a command can go on a connection, by what can be written and read there. -/
inductive Connection.Goes (connection : Connection) : Course → Connection → Prop
  | unsent {fault : Fault} (hw : connection.write = .error fault) :
      Goes connection (.unsent fault) connection
  | unread {written : Connection} (reaction : Reaction) (hw : connection.write = .ok written) :
      Goes connection (.unread reaction) (written.hear reaction)
  | refused {written : Connection} {inbox : Source} {error : SessionError} (reaction : Reaction)
      (hw : connection.write = .ok written)
      (hr : Frame.read (written.hear reaction).inbox = (.error error, inbox)) :
      Goes connection (.refused reaction error) { written.hear reaction with inbox }
  | unacknowledged {written : Connection} {inbox : Source} {reply : String} {fault : Fault}
      (reaction : Reaction) (hw : connection.write = .ok written)
      (hr : Frame.read (written.hear reaction).inbox = (.ok reply, inbox))
      (ha : write { written.hear reaction with inbox } = .error fault) :
      Goes connection (.unacknowledged reaction reply fault) { written.hear reaction with inbox }
  | accepted {written next : Connection} {inbox : Source} {reply : String} (reaction : Reaction)
      (hw : connection.write = .ok written)
      (hr : Frame.read (written.hear reaction).inbox = (.ok reply, inbox))
      (ha : write { written.hear reaction with inbox } = .ok next) :
      Goes connection (.accepted reaction reply) next

inductive Connection.Hears : Connection → List Exchange → Connection → Prop
  | nil (connection : Connection) : Hears connection [] connection
  | cons {connection next finish : Connection} {course : Course} {exchanges : List Exchange}
      (command : Command) (hg : connection.Goes course next) (h : Hears next exchanges finish) :
      Hears connection (⟨connection.number, command, course⟩ :: exchanges) finish

namespace Connection

variable {start mid next finish : Connection} {course : Course} {exchanges later : List Exchange}

theorem Goes.number_eq (h : start.Goes course next) : next.number = start.number := by
  cases h with
  | unsent => rfl
  | unread reaction hw | refused reaction hw | unacknowledged reaction hw =>
    obtain ⟨breaks, rfl⟩ := exists_breaks_of_write hw
    rfl
  | accepted reaction hw hr ha =>
    obtain ⟨breaks, rfl⟩ := exists_breaks_of_write hw
    obtain ⟨breaks', rfl⟩ := exists_breaks_of_write ha
    rfl

/-- A connection that is broken stays so. -/
theorem Goes.of_broken {fault : Fault} (h : start.Goes course next)
    (hw : start.write = .error fault) : course = .unsent fault ∧ next = start := by
  cases h with
  | unsent hw' =>
    rw [hw] at hw'
    cases hw'
    exact ⟨rfl, rfl⟩
  | unread _ hw' | refused _ hw' | unacknowledged _ hw' | accepted _ hw' =>
    rw [hw] at hw'
    cases hw'

theorem Goes.exists_broken (h : start.Goes course next) (hc : course.isBroken = true) :
    ∃ fault, next.write = .error fault := by
  cases h with
  | unsent hw => exact ⟨_, hw⟩
  | unacknowledged _ _ _ ha => exact ⟨_, ha⟩
  | unread | refused | accepted => cases hc

namespace Hears

theorem append (h : Hears start exchanges mid) (h' : Hears mid later finish) :
    Hears start (exchanges ++ later) finish := by
  induction h with
  | nil => exact h'
  | cons command hg _ ih => exact .cons command hg (ih h')

theorem number_eq (h : Hears start exchanges finish) : finish.number = start.number := by
  induction h with
  | nil => rfl
  | cons command hg _ ih => rw [ih, hg.number_eq]

theorem connection_eq (h : Hears start exchanges finish) :
    ∀ exchange ∈ exchanges, exchange.connection = start.number := by
  induction h with
  | nil => simp
  | cons command hg _ ih =>
    rw [hg.number_eq] at ih
    exact List.forall_mem_cons.mpr ⟨rfl, ih⟩

theorem unsent_of_broken {fault : Fault} (h : Hears start exchanges finish)
    (hw : start.write = .error fault) : ∀ exchange ∈ exchanges, exchange.isSent = false := by
  induction h with
  | nil => simp
  | cons command hg _ ih =>
    obtain ⟨rfl, rfl⟩ := hg.of_broken hw
    exact List.forall_mem_cons.mpr ⟨rfl, ih hw⟩

theorem pairwise_unsent (h : Hears start exchanges finish) :
    exchanges.Pairwise fun earlier later ↦
      earlier.course.isBroken = true → later.isSent = false := by
  induction h with
  | nil => exact .nil
  | cons command hg h ih =>
    refine .cons ?_ ih
    intro later hl hc
    obtain ⟨fault, hw⟩ := hg.exists_broken hc
    exact h.unsent_of_broken hw later hl

end Hears

end Connection

namespace Link

/-- All that happens to a link in a number of exchanges. -/
structure Talks (link : Link) (exchanges : List Exchange) (finish : Link) : Prop where
  hears : link.connection.Hears exchanges finish.connection
  reactions : Exchange.reactions exchanges =
    Reaction.answers link.wire.reactions (Exchange.reactions exchanges).length
  wire : finish.wire =
    { link.wire with
      reactions := link.wire.reactions.drop (Exchange.reactions exchanges).length
      received := link.wire.received.modify link.connection.number
        (· ++ exchanges.flatMap Exchange.transmissions) }

variable {link mid finish : Link} {exchanges later : List Exchange} {command : Command}

theorem wire_eq_of_silent (link : Link) :
    link.wire = { link.wire with
      received := link.wire.received.modify link.connection.number (· ++ []) } := by
  have hm : (fun sent : List Transmission ↦ sent) = id := rfl
  simp [hm]

theorem Talks.nil (link : Link) : link.Talks [] link where
  hears := .nil link.connection
  reactions := rfl
  wire := link.wire_eq_of_silent

theorem Talks.append (h : link.Talks exchanges mid) (h' : mid.Talks later finish) :
    link.Talks (exchanges ++ later) finish where
  hears := h.hears.append h'.hears
  reactions := by
    rw [Exchange.reactions_append, List.length_append, Reaction.answers_add, ← h.reactions]
    have hlater := h'.reactions
    rw [h.wire] at hlater
    exact congrArg _ hlater
  wire := by
    rw [h'.wire, h.wire, h.hears.number_eq]
    simp only [modify_append_append, List.drop_drop, Exchange.reactions_append, List.length_append,
      List.flatMap_append]

/-- What is said over a link, by exchanges of which no more is told. -/
def Says (link : Link) (said : List Said) (finish : Link) : Prop :=
  ∃ exchanges, exchanges.map Exchange.said = said ∧ link.Talks exchanges finish

theorem Says.append {said more : List Said} (h : link.Says said mid) (h' : mid.Says more finish) :
    link.Says (said ++ more) finish := by
  obtain ⟨exchanges, rfl, ht⟩ := h
  obtain ⟨later, rfl, ht'⟩ := h'
  exact ⟨exchanges ++ later, List.map_append, ht.append ht'⟩

theorem talks_of_broken {fault : Fault} (command : Command)
    (h : link.connection.write = .error fault) :
    link.Talks [⟨link.connection.number, command, .unsent fault⟩] link where
  hears := .cons command (.unsent h) (.nil _)
  reactions := rfl
  wire := link.wire_eq_of_silent

theorem talks_of_goes {course : Course} (command : Command)
    (hg : link.connection.Goes course finish.connection)
    (hr : course.reaction? = some (link.wire.reactions.headD .hangUp))
    (hw : finish.wire = { link.wire with
      reactions := link.wire.reactions.tail
      received := link.wire.received.modify link.connection.number
        (· ++ Exchange.transmissions ⟨link.connection.number, command, course⟩) }) :
    link.Talks [⟨link.connection.number, command, course⟩] finish := by
  have hreactions : Exchange.reactions [⟨link.connection.number, command, course⟩] =
      [link.wire.reactions.headD .hangUp] := by
    simp [Exchange.reactions, Exchange.reaction?, hr]
  refine ⟨.cons command hg (.nil _), ?_, ?_⟩
  · rw [hreactions]
    rfl
  · simp [hreactions, hw]

theorem says_of_sent (h : send command link = (.ok (), finish)) :
    link.Says [(command, none)] finish := by
  obtain ⟨written, hw, rfl⟩ := send_eq_ok_iff.mp h
  exact ⟨[_], rfl, talks_of_goes command (.unread _ hw) rfl rfl⟩

theorem says_request (link : Link) (command : Command) :
    link.Says [(command, some (request command link).1)] (request command link).2 := by
  cases hw : link.connection.write with
  | error fault =>
    rw [request_of_unsent (send_of_broken hw)]
    exact ⟨[_], rfl, talks_of_broken command hw⟩
  | ok written =>
  rw [request_of_sent (send_of_written hw)]
  rcases hr : Frame.read (link.heard written).inbox with ⟨error | reply, inbox⟩
  · rw [receive_of_refused hr]
    exact ⟨[_], rfl, talks_of_goes command (.refused _ hw hr) rfl rfl⟩
  cases ha : Connection.write { link.heard written with inbox } with
  | error fault =>
    rw [receive_of_unacknowledged hr ha]
    exact ⟨[_], rfl, talks_of_goes command (.unacknowledged _ hw hr ha) rfl rfl⟩
  | ok acknowledged =>
    rw [receive_of_acknowledged hr ha]
    refine ⟨[_], rfl, talks_of_goes command (.accepted _ hw hr ha) rfl ?_⟩
    obtain ⟨breaks, rfl⟩ := Connection.exists_breaks_of_write hw
    exact congrArg (Wire.mk _ _) (modify_append_append ..)

end Link

end Lockstep
