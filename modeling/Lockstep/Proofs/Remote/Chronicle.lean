import Lockstep.Proofs.Remote.Calls

namespace Lockstep

namespace Exchange

def on (history : List Exchange) (number : Nat) : List Exchange :=
  history.filter fun exchange ↦ exchange.connection == number

variable {history later : List Exchange} {number : Nat}

theorem on_append (history later : List Exchange) (number : Nat) :
    on (history ++ later) number = on history number ++ on later number :=
  List.filter_append ..

theorem on_eq_self (h : ∀ exchange ∈ later, exchange.connection = number) :
    on later number = later := by
  rw [on, List.filter_eq_self]
  intro exchange he
  exact beq_iff_eq.mpr (h exchange he)

theorem on_eq_nil (h : ∀ exchange ∈ later, exchange.connection ≠ number) : on later number = [] := by
  rw [on, List.filter_eq_nil_iff]
  intro exchange he
  simp [h exchange he]

end Exchange

def Connection.fresh (number : Nat) : Connection := ⟨number, ⟨[], some .wouldBlock⟩, none⟩

/-- A history accounts for all that a stub with these reactions has received, and for all that was
read of it. -/
structure Chronicle (queue : List Reaction) (wire : Wire) (history : List Exchange) : Prop where
  reactions : Exchange.reactions history =
    Reaction.answers queue (Exchange.reactions history).length
  left : wire.reactions = queue.drop (Exchange.reactions history).length
  received : ∀ number < wire.received.length,
    wire.received[number]? = some ((Exchange.on history number).flatMap Exchange.transmissions)
  opened : ∀ exchange ∈ history, exchange.connection < wire.received.length
  heard : ∀ number, ∃ connection,
    (Connection.fresh number).Hears (Exchange.on history number) connection

structure Connection.Follows (connection : Connection) (wire : Wire) (history : List Exchange) :
    Prop where
  opened : connection.number < wire.received.length
  heard : (fresh connection.number).Hears (Exchange.on history connection.number) connection

namespace Link.Talks

variable {link finish : Link} {exchanges : List Exchange}

theorem length_received (h : link.Talks exchanges finish) :
    finish.wire.received.length = link.wire.received.length := by
  rw [h.wire]
  exact List.length_modify ..

theorem on_self (h : link.Talks exchanges finish) :
    Exchange.on exchanges link.connection.number = exchanges :=
  Exchange.on_eq_self h.hears.connection_eq

theorem on_other (h : link.Talks exchanges finish) {number : Nat}
    (hn : number ≠ link.connection.number) : Exchange.on exchanges number = [] := by
  refine Exchange.on_eq_nil ?_
  intro exchange he
  rw [h.hears.connection_eq exchange he]
  exact Ne.symm hn

end Link.Talks

variable {queue : List Reaction} {history exchanges : List Exchange} {link finish : Link}
  {connection : Connection} {wire : Wire}

theorem Link.Talks.follows (ht : link.Talks exchanges finish)
    (hf : link.connection.Follows link.wire history) :
    finish.connection.Follows finish.wire (history ++ exchanges) where
  opened := by
    rw [ht.hears.number_eq, ht.length_received]
    exact hf.opened
  heard := by
    rw [ht.hears.number_eq, Exchange.on_append, ht.on_self]
    exact hf.heard.append ht.hears

theorem Link.Talks.follows_aside (ht : link.Talks exchanges finish)
    (hf : connection.Follows link.wire history)
    (hn : connection.number ≠ link.connection.number) :
    connection.Follows finish.wire (history ++ exchanges) where
  opened := by
    rw [ht.length_received]
    exact hf.opened
  heard := by
    rw [Exchange.on_append, ht.on_other hn, List.append_nil]
    exact hf.heard

theorem Link.Talks.chronicle (ht : link.Talks exchanges finish)
    (h : Chronicle queue link.wire history) (hf : link.connection.Follows link.wire history) :
    Chronicle queue finish.wire (history ++ exchanges) where
  reactions := by
    have hreactions := ht.reactions
    rw [h.left] at hreactions
    rw [Exchange.reactions_append, List.length_append, Reaction.answers_add, ← h.reactions]
    exact congrArg _ hreactions
  left := by
    rw [ht.wire, Exchange.reactions_append, List.length_append, ← List.drop_drop, ← h.left]
  received := by
    intro number hn
    rw [ht.length_received] at hn
    have hr := h.received number hn
    rw [Exchange.on_append, List.flatMap_append, ht.wire]
    by_cases he : number = link.connection.number
    · subst he
      simp [hr, ht.on_self]
    · simp [hr, ht.on_other he, Ne.symm he]
  opened := by
    intro exchange he
    rw [ht.length_received]
    obtain he | he := List.mem_append.mp he
    · exact h.opened exchange he
    · rw [ht.hears.connection_eq exchange he]
      exact hf.opened
  heard := by
    intro number
    rw [Exchange.on_append]
    by_cases he : number = link.connection.number
    · subst he
      rw [ht.on_self]
      exact ⟨_, hf.heard.append ht.hears⟩
    · rw [ht.on_other he, List.append_nil]
      exact h.heard number

theorem Chronicle.on_opened (h : Chronicle queue wire history) :
    Exchange.on history wire.opened.connection.number = [] := by
  refine Exchange.on_eq_nil ?_
  intro exchange he
  exact Nat.ne_of_lt (h.opened exchange he)

theorem Wire.length_opened (wire : Wire) :
    wire.opened.wire.received.length = wire.received.length + 1 :=
  List.length_append

theorem Chronicle.connect (h : Chronicle queue wire history) :
    Chronicle queue wire.opened.wire history where
  reactions := h.reactions
  left := h.left
  received := by
    intro number hn
    rw [wire.length_opened] at hn
    by_cases he : number < wire.received.length
    · exact (List.getElem?_append_left he).trans (h.received number he)
    · obtain rfl : number = wire.opened.connection.number := Nat.le_antisymm (Nat.le_of_lt_succ hn)
        (Nat.le_of_not_lt he)
      rw [h.on_opened]
      exact List.getElem?_concat_length ..
  opened := by
    intro exchange he
    rw [wire.length_opened]
    exact Nat.lt_succ_of_lt (h.opened exchange he)
  heard := h.heard

theorem Connection.Follows.connect (hf : connection.Follows wire history) :
    connection.Follows wire.opened.wire history ∧
      connection.number ≠ wire.opened.connection.number := by
  refine ⟨⟨?_, hf.heard⟩, Nat.ne_of_lt hf.opened⟩
  rw [wire.length_opened]
  exact Nat.lt_succ_of_lt hf.opened

theorem Chronicle.follows_opened (h : Chronicle queue wire history) :
    wire.opened.connection.Follows wire.opened.wire history where
  opened := by
    rw [wire.length_opened]
    exact Nat.lt_succ_self _
  heard := by
    rw [h.on_opened]
    exact .nil _

namespace RemoteSession

structure Recounts (queue : List Reaction) (session : RemoteSession) (history : List Exchange) :
    Prop where
  chronicle : Chronicle queue session.wire history
  current : ∀ connection, session.connection = some connection →
    connection.Follows session.wire history

variable {session finish : RemoteSession} {call : Call} {calls : List Call}
  {result : Except SessionError Unit}

theorem recounts_new (listening : List Endpoint) (queue : List Reaction) :
    Recounts queue { wire := { listening, reactions := queue } } [] where
  chronicle := {
    reactions := rfl
    left := rfl
    received := by simp
    opened := by simp
    heard := fun _ ↦ ⟨_, .nil _⟩ }
  current := by simp

theorem Recounts.of_does (h : Recounts queue session history)
    (hd : Does session call exchanges result finish) :
    Recounts queue finish (history ++ exchanges) := by
  cases hd with
  | configured settings result hw hc hp =>
    rw [List.append_nil]
    exact ⟨hw ▸ h.chronicle, hw ▸ hc ▸ h.current⟩
  | unreachable =>
    rw [List.append_nil]
    exact h
  | notGreeted hs ht hg =>
    obtain ⟨-, rfl⟩ := Wire.connect_eq_ok_iff.mp hs
    refine ⟨ht.chronicle h.chronicle.connect h.chronicle.follows_opened, ?_⟩
    -- The session keeps its old connection, and all was said on the new one.
    intro connection hc
    obtain ⟨hf, hn⟩ := (h.current connection hc).connect
    exact ht.follows_aside hf hn
  | greeted hs ht hg =>
    obtain ⟨-, rfl⟩ := Wire.connect_eq_ok_iff.mp hs
    have hf := h.chronicle.follows_opened
    refine ⟨ht.chronicle h.chronicle.connect hf, ?_⟩
    intro connection hc
    exact Option.some.inj hc ▸ ht.follows hf
  | unattached =>
    rw [List.append_nil]
    exact h
  | idle =>
    rw [List.append_nil]
    exact h
  | acted hc ht ha =>
    have hf := h.current _ hc
    refine ⟨ht.chronicle h.chronicle hf, ?_⟩
    intro connection hc
    exact Option.some.inj hc ▸ ht.follows hf
  | detached result hc ht hcommand =>
    refine ⟨ht.chronicle h.chronicle (h.current _ hc), ?_⟩
    intro connection hc
    cases hc

theorem Recounts.of_runs {later : List Exchange} (h : Recounts queue session history)
    (hr : Runs session calls later finish) : Recounts queue finish (history ++ later) := by
  induction hr generalizing history with
  | nil =>
    rw [List.append_nil]
    exact h
  | cons hd _ ih =>
    rw [← List.append_assoc]
    exact ih (h.of_does hd)

end RemoteSession

end Lockstep
