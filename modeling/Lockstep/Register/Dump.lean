import Lockstep.Register.State

namespace Lockstep

namespace Dump

/-- The register and the value text of a line, if its first word names a register and a second
word follows. All other lines say nothing. -/
def reading? (line : List Char) : Option (Register × List Char) :=
  match Text.words line with
  | name :: value :: _ => (Register.ofName? name).map (·, value)
  | _ => none

/-- What the lines of a text say, in order. A carriage return is white space, so it needs no rule
of its own. -/
def readings (text : List Char) : List (Register × List Char) :=
  (Text.pieces (· == '\n') text).filterMap reading?

end Dump

namespace Update

def addReading (update : Update) (reading : Register × List Char) : Except FieldError Update :=
  (Word.parse reading.2).map (update.write reading.1)

def ofDump (text : String) : Except FieldError Update :=
  (Dump.readings text.toList).foldlM addReading empty

end Update

namespace Registers

def mergeDump (text : String) : Attempt FieldError Registers Unit :=
  merge (Update.ofDump text)

theorem mergeDump_of_error {text : String} {live : Registers} {error : FieldError}
    (h : (mergeDump text live).1 = .error error) : mergeDump text live = (.error error, live) :=
  merge_of_error h

end Registers

end Lockstep
