import Lockstep.Trace.Golden
import Lockstep.Trace.Source
import Lockstep.Trace.Window

namespace Lockstep

/-- A forward-only cursor. It takes lines only when a record is asked for, and it is finished after
the first error. -/
structure Cursor where
  rest : List Line
  window : Window
  toSkip : Nat
  line : Nat := 0
  emitted : Nat := 0
  finished : Bool := false

inductive Advance where
  | atEnd (line toSkip : Nat)
  | unreadable (line : Nat) (fault : Fault) (toSkip : Nat) (rest : List Line)
  | taken (line : Nat) (text : String) (rest : List Line)

/-- Takes lines until the next one that is not to be skipped. A skipped line need not be a record,
but it has to be readable. -/
def Advance.ofLines : List Line → (toSkip line : Nat) → Advance
  | [], toSkip, line => .atEnd line toSkip
  | .error fault :: rest, toSkip, line => .unreadable (line + 1) fault toSkip rest
  | .ok text :: rest, 0, line => .taken (line + 1) text rest
  | .ok _ :: rest, toSkip + 1, line => ofLines rest toSkip (line + 1)

namespace Cursor

def ofSource (source : Source) (window : Window) : Cursor :=
  { rest := source.lines, window, toSkip := window.skip }

def next (cursor : Cursor) : Option (Except TraceError Record) × Cursor :=
  if cursor.finished then (none, cursor)
  else if cursor.window.isFull cursor.emitted then (none, { cursor with finished := true })
  else match Advance.ofLines cursor.rest cursor.toSkip cursor.line with
    | .atEnd line toSkip => (none, { cursor with rest := [], toSkip, line, finished := true })
    | .unreadable line fault toSkip rest =>
      (some (.error (.unreadable line fault)), { cursor with rest, toSkip, line, finished := true })
    | .taken line text rest =>
      match Record.parse line text with
      | .ok record =>
        (some (.ok record),
          { cursor with rest, toSkip := 0, line, emitted := cursor.emitted + 1 })
      | .error error =>
        (some (.error error), { cursor with rest, toSkip := 0, line, finished := true })

theorem length_lt_of_taken {lines rest : List Line} {toSkip line line' : Nat} {text : String}
    (h : Advance.ofLines lines toSkip line = .taken line' text rest) :
    rest.length < lines.length := by
  induction lines generalizing toSkip line with
  | nil => simp [Advance.ofLines] at h
  | cons head tail ih =>
    cases head with
    | error fault => simp [Advance.ofLines] at h
    | ok text =>
      cases toSkip with
      | zero =>
        simp only [Advance.ofLines, Advance.taken.injEq] at h
        simp [h.2.2]
      | succ n =>
        have := ih h
        simp only [List.length_cons]
        omega

theorem rest_lt_of_next {cursor after : Cursor} {record : Record}
    (h : cursor.next = (some (.ok record), after)) : after.rest.length < cursor.rest.length := by
  unfold next at h
  split at h
  · simp at h
  split at h
  · simp at h
  split at h
  · simp at h
  · simp at h
  · rename_i taken
    split at h
    · simp only [Prod.mk.injEq] at h
      rw [← h.2]
      exact length_lt_of_taken taken
    · simp at h

/-- Everything that is still to come: the records in order, and the error if one ends them. -/
def items (cursor : Cursor) : List (Except TraceError Record) :=
  match _h : cursor.next with
  | (none, _) => []
  | (some (.error error), _) => [.error error]
  | (some (.ok record), after) => .ok record :: after.items
termination_by cursor.rest.length
decreasing_by exact rest_lt_of_next _h

end Cursor

namespace Source

def countLines : List Line → (counted : Nat := 0) → Except TraceError Nat
  | [], counted => .ok counted
  | .ok _ :: rest, counted => countLines rest (counted + 1)
  | .error fault :: _, counted => .error (.unreadable (counted + 1) fault)

/-- How many records a cursor with this window emits if all of them are well formed. Lines are
counted and not parsed, and an unreadable one is an error even outside the window. -/
def recordCount (source : Source) (window : Window) : Except TraceError Nat :=
  (countLines source.lines).map window.count

end Source

end Lockstep
