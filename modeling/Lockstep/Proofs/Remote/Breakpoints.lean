import Lockstep.Proofs.Remote.Chronicle

namespace Lockstep

/-- Neither a removal nor a placement that was accepted. -/
def Exchange.Spares (exchange : Exchange) : Prop :=
  match exchange.command with
  | .removeBreakpoint _ => False
  | .placeBreakpoint _ => exchange.reply? ≠ some "OK"
  | _ => True

theorem Exchange.spares_of_said {exchange : Exchange} {entry : Said} (h : exchange.said = entry)
    (hr : ∀ address, entry.1 ≠ .removeBreakpoint address)
    (hp : ∀ address, entry.1 = .placeBreakpoint address → entry.2 ≠ some (.ok "OK")) :
    exchange.Spares := by
  subst h
  rw [Spares]
  split
  · rename_i address hc
    exact hr address hc
  · rename_i address hc
    intro ho
    refine hp address hc ?_
    unfold reply? at ho
    split at ho
    · rename_i reply houtcome
      rw [Exchange.said, houtcome, Option.some.inj ho]
    · cases ho
  · trivial

theorem Greets.spares {exchanges : List Exchange} {result : Except SessionError Unit}
    (h : Greets (exchanges.map Exchange.said) result) : ∀ exchange ∈ exchanges, exchange.Spares := by
  intro exchange he
  have hm : exchange.command ∈ (exchanges.map Exchange.said).map Prod.fst :=
    List.mem_map_of_mem (List.mem_map_of_mem he)
  have hc := h.commands_prefix.subset hm
  simp only [List.mem_cons, List.not_mem_nil, or_false] at hc
  rw [Exchange.Spares]
  obtain hc | hc | hc := hc <;> rw [hc] <;> trivial

theorem Exchange.Spares.ne_removeBreakpoint {exchange : Exchange} (h : exchange.Spares)
    (address : Word) : exchange.command ≠ .removeBreakpoint address := by
  intro he
  rw [Spares, he] at h
  exact h

/-- An accepted placement in a history, since which there was no other one, and no removal. -/
structure Placement (history : List Exchange) (address : Word) where
  earlier : List Exchange
  exchange : Exchange
  later : List Exchange
  eq : history = earlier ++ exchange :: later
  command : exchange.command = .placeBreakpoint address
  accepted : exchange.reply? = some "OK"
  spared : ∀ exchange ∈ later, exchange.Spares

namespace Placement

variable {history exchanges : List Exchange} {address : Word} {number : Nat}

/-- The placement was made on the connection, or the connection was opened after it. -/
def Reaches (placement : Placement history address) (number : Nat) : Prop :=
  placement.exchange.connection = number ∨ ∃ exchange ∈ placement.later,
    exchange.connection = number ∧ exchange.command = .isAttached ∧ exchange.reply?.isSome

def last (history : List Exchange) {exchange : Exchange}
    (hc : exchange.command = .placeBreakpoint address) (ha : exchange.reply? = some "OK") :
    Placement (history ++ [exchange]) address :=
  ⟨history, exchange, [], rfl, hc, ha, by simp⟩

def append (placement : Placement history address) (hs : ∀ exchange ∈ exchanges, exchange.Spares) :
    Placement (history ++ exchanges) address where
  earlier := placement.earlier
  exchange := placement.exchange
  later := placement.later ++ exchanges
  eq := by
    have he := placement.eq
    rw [← List.cons_append, ← List.append_assoc, ← he]
  command := placement.command
  accepted := placement.accepted
  spared := by
    intro exchange he
    obtain he | he := List.mem_append.mp he
    · exact placement.spared exchange he
    · exact hs exchange he

theorem Reaches.append {placement : Placement history address} (h : placement.Reaches number)
    (hs : ∀ exchange ∈ exchanges, exchange.Spares) : (placement.append hs).Reaches number := by
  obtain h | ⟨exchange, he, h⟩ := h
  · exact .inl h
  · exact .inr ⟨exchange, List.mem_append_left _ he, h⟩

theorem reaches_append_of_mem (placement : Placement history address)
    (hs : ∀ exchange ∈ exchanges, exchange.Spares) {exchange : Exchange} (he : exchange ∈ exchanges)
    (hc : exchange.command = .isAttached) (ha : exchange.reply?.isSome) :
    (placement.append hs).Reaches exchange.connection :=
  .inr ⟨exchange, List.mem_append_right _ he, rfl, hc, ha⟩

end Placement

/-- Each removal was preceded by the placement of the breakpoint. -/
def Justified (history : List Exchange) : Prop :=
  ∀ before removal after address, history = before ++ removal :: after →
    removal.command = .removeBreakpoint address →
      ∃ placement : Placement before address, placement.Reaches removal.connection

namespace Justified

variable {history exchanges : List Exchange} {exchange : Exchange}

theorem nil : Justified [] := by
  intro before removal after address he
  simp at he

theorem concat (h : Justified history)
    (he : ∀ address, exchange.command = .removeBreakpoint address →
      ∃ placement : Placement history address, placement.Reaches exchange.connection) :
    Justified (history ++ [exchange]) := by
  intro before removal after address hs hc
  obtain rfl | ⟨after, last, rfl⟩ := List.eq_nil_or_concat' after
  · obtain ⟨rfl, hl⟩ := List.append_inj' hs rfl
    obtain rfl := List.singleton_inj.mp hl
    exact he address hc
  · rw [← List.cons_append, ← List.append_assoc] at hs
    exact h before removal after address (List.append_inj' hs rfl).1 hc

theorem append (h : Justified history) (hs : ∀ exchange ∈ exchanges, exchange.Spares) :
    Justified (history ++ exchanges) := by
  induction exchanges generalizing history with
  | nil =>
    rw [List.append_nil]
    exact h
  | cons exchange exchanges ih =>
    obtain ⟨hx, hs⟩ := List.forall_mem_cons.mp hs
    rw [List.append_cons]
    refine ih (h.concat ?_) hs
    intro address hc
    exact absurd hc (hx.ne_removeBreakpoint address)

end Justified

namespace RemoteSession

/-- Every removal in the history is justified, and the next one would be. -/
structure Remembers (session : RemoteSession) (history : List Exchange) : Prop where
  justified : Justified history
  pending : ∀ address, session.pending = some address →
    ∃ placement : Placement history address,
      ∀ connection, session.connection = some connection → placement.Reaches connection.number

variable {session finish : RemoteSession} {history exchanges : List Exchange} {call : Call}
  {calls : List Call} {result : Except SessionError Unit}

theorem Remembers.of_spares (h : Remembers session history)
    (hs : ∀ exchange ∈ exchanges, exchange.Spares) (hp : finish.pending = session.pending)
    (hc : ∀ connection, finish.connection = some connection →
      (∃ old, session.connection = some old ∧ old.number = connection.number) ∨
      ∃ exchange ∈ exchanges, exchange.connection = connection.number ∧
        exchange.command = .isAttached ∧ exchange.reply?.isSome) :
    Remembers finish (history ++ exchanges) where
  justified := h.justified.append hs
  pending := by
    intro address ha
    obtain ⟨placement, hr⟩ := h.pending address (hp ▸ ha)
    refine ⟨placement.append hs, ?_⟩
    intro connection hf
    obtain ⟨old, ho, hn⟩ | ⟨exchange, he, hn, hcommand, hreply⟩ := hc connection hf
    · exact hn ▸ (hr old ho).append hs
    · exact hn ▸ placement.reaches_append_of_mem hs he hcommand hreply

theorem Remembers.justified_removal {connection : Connection} {address : Word}
    {stop answer : Option (Except SessionError String)} (h : Remembers session history)
    (hc : session.connection = some connection) (hp : session.pending = some address)
    (hn : ∀ exchange ∈ exchanges, exchange.connection = connection.number)
    (hsaid : exchanges.map Exchange.said = [(.go, stop), (.removeBreakpoint address, answer)]) :
    Justified (history ++ exchanges) := by
  obtain ⟨go, _, rfl, hgo, htail⟩ := List.map_eq_cons_iff.mp hsaid
  obtain ⟨removal, rfl, hremoval⟩ := List.map_eq_singleton_iff.mp htail
  obtain ⟨hcommand, -⟩ := Prod.mk.inj hremoval
  obtain ⟨placement, hreaches⟩ := h.pending address hp
  have hs : ∀ exchange ∈ [go], exchange.Spares :=
    List.forall_mem_singleton.mpr (Exchange.spares_of_said hgo (by simp) (by simp))
  rw [List.append_cons]
  refine (h.justified.append hs).concat ?_
  intro other ho
  obtain rfl := Command.removeBreakpoint.inj (hcommand.symm.trans ho)
  exact ⟨placement.append hs, hn removal (by simp) ▸ (hreaches connection hc).append hs⟩

theorem Remembers.of_acts {connection : Connection} {link : Link} {pending : Option Word}
    (h : Remembers session history) (hc : session.connection = some connection)
    (ht : Link.Talks ⟨session.wire, connection⟩ exchanges link)
    (ha : Acts session.pending call (exchanges.map Exchange.said) result pending) :
    Remembers { session with wire := link.wire, connection := some link.connection, pending }
      (history ++ exchanges) := by
  have hn := ht.hears.connection_eq
  have hspared : ∀ entry, exchanges.map Exchange.said = [entry] → session.pending = pending →
      (∀ address, entry.1 ≠ .removeBreakpoint address) →
      (∀ address, entry.1 = .placeBreakpoint address → entry.2 ≠ some (.ok "OK")) →
      Remembers { session with wire := link.wire, connection := some link.connection, pending }
        (history ++ exchanges) := by
    intro entry he hp hr ho
    obtain ⟨exchange, rfl, hx⟩ := List.map_eq_singleton_iff.mp he
    refine h.of_spares (List.forall_mem_singleton.mpr (Exchange.spares_of_said hx hr ho)) hp.symm ?_
    intro current hcurrent
    obtain rfl := Option.some.inj hcurrent
    exact .inl ⟨connection, hc, ht.hears.number_eq.symm⟩
  generalize hsaid : exchanges.map Exchange.said = said at ha
  generalize hp : session.pending = before at ha
  cases ha with
  | placed _ address =>
    obtain ⟨exchange, rfl, hx⟩ := List.map_eq_singleton_iff.mp hsaid
    obtain ⟨hcommand, houtcome⟩ := Prod.mk.inj hx
    have hreply : exchange.reply? = some "OK" := by rw [Exchange.reply?, houtcome]
    constructor
    · refine h.justified.concat ?_
      intro other hother
      rw [hcommand] at hother
      cases hother
    · intro other hother
      obtain rfl := Option.some.inj hother
      refine ⟨.last history hcommand hreply, ?_⟩
      intro current hcurrent
      obtain rfl := Option.some.inj hcurrent
      rw [ht.hears.number_eq]
      exact .inl (hn exchange (List.mem_singleton_self exchange))
  | notPlaced _ address error ho =>
    exact hspared _ hsaid hp (by simp) (by simp [ho])
  | notAwaited =>
    exact hspared _ hsaid hp (by simp) (by simp)
  | notStopped _ error hs =>
    exact hspared _ hsaid hp (by simp) (by simp)
  | stopped hs =>
    exact hspared _ hsaid hp (by simp) (by simp)
  | removed address hs =>
    exact ⟨h.justified_removal hc hp hn hsaid, by simp⟩
  | notRemoved address error hs ho =>
    exact ⟨h.justified_removal hc hp hn hsaid, by simp⟩
  | dumped =>
    exact hspared _ hsaid hp (by simp) (by simp)

theorem Remembers.of_does (h : Remembers session history)
    (hd : Does session call exchanges result finish) : Remembers finish (history ++ exchanges) := by
  cases hd with
  | configured settings result hw hc hp =>
    refine h.of_spares (by simp) hp ?_
    intro connection ho
    exact .inl ⟨connection, hc ▸ ho, rfl⟩
  | unreachable =>
    rw [List.append_nil]
    exact h
  | notGreeted hs ht hg =>
    refine h.of_spares hg.spares rfl ?_
    intro connection ho
    exact .inl ⟨connection, ho, rfl⟩
  | greeted hs ht hg =>
    refine h.of_spares hg.spares rfl ?_
    intro connection ho
    obtain rfl := Option.some.inj ho
    have hn := ht.hears.connection_eq
    rw [← ht.hears.number_eq] at hn
    generalize hsaid : exchanges.map Exchange.said = said at hg
    cases hg with
    | attached features attached hp =>
      have hm : (Command.isAttached, some (.ok attached)) ∈ exchanges.map Exchange.said := by
        rw [hsaid]
        simp
      obtain ⟨exchange, he, hx⟩ := List.mem_map.mp hm
      obtain ⟨hcommand, houtcome⟩ := Prod.mk.inj hx
      refine .inr ⟨exchange, he, hn exchange he, hcommand, ?_⟩
      rw [Exchange.reply?, houtcome]
      rfl
  | unattached =>
    rw [List.append_nil]
    exact h
  | idle =>
    rw [List.append_nil]
    exact h
  | acted hc ht ha => exact h.of_acts hc ht ha
  | detached result hc ht hcommand =>
    refine h.of_spares ?_ rfl (by simp)
    intro exchange he
    rw [List.mem_singleton.mp he, Exchange.Spares, hcommand]
    trivial

theorem Remembers.of_runs {later : List Exchange} (h : Remembers session history)
    (hr : Runs session calls later finish) : Remembers finish (history ++ later) := by
  induction hr generalizing history with
  | nil =>
    rw [List.append_nil]
    exact h
  | cons hd _ ih =>
    rw [← List.append_assoc]
    exact ih (h.of_does hd)

/-- A breakpoint that a session asks to be removed was accepted before, and neither removed nor
replaced by another one since: on the same connection, unless the session was attached anew. -/
theorem justified_of_calls (listening : List Endpoint) (queue : List Reaction) (calls : List Call) :
    let start : RemoteSession := { wire := { listening, reactions := queue } }
    let finish := Debugger.afterCalls calls start
    ∃ history, Runs start calls history finish ∧ Chronicle queue finish.wire history ∧
      Justified history := by
  intro start finish
  obtain ⟨history, hruns⟩ := start.exists_runs calls
  have hm : Remembers start [] := ⟨.nil, by simp [start]⟩
  exact ⟨history, hruns, ((recounts_new listening queue).of_runs hruns).chronicle,
    (hm.of_runs hruns).justified⟩

theorem removed_elsewhere :
    let replies := ["hwbreak+", "S05", "1", "OK", "hwbreak+", "S05", "1", "S05", "OK"]
    let start : RemoteSession :=
      { wire := { listening := [⟨"localhost", 1337⟩], reactions := replies.map Reaction.reply } }
    let calls := [.attach defaultEndpoint, .breakAt 1, .attach defaultEndpoint, .resume]
    ∃ sent, (Debugger.afterCalls calls start).wire.received[1]? = some sent ∧
      .command (.removeBreakpoint 1) ∈ sent ∧ .command (.placeBreakpoint 1) ∉ sent :=
  ⟨_, rfl, by decide, by decide⟩

end RemoteSession

end Lockstep
