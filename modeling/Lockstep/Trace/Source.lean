import Lockstep.Fault
import Lockstep.Text.Blank
import Lockstep.Text.Utf8

namespace Lockstep

/-- A stream of bytes that ends cleanly or in a failure. -/
structure Source where
  bytes : List UInt8
  failure : Option Fault := none
  deriving DecidableEq, Repr

abbrev Line := Except Fault String

namespace Source

def lineFeed : UInt8 := 10

def carriageReturn : UInt8 := 13

def dropReturn (bytes : List UInt8) : List UInt8 :=
  if bytes.getLast? = some carriageReturn then bytes.dropLast else bytes

def lineOf (bytes : List UInt8) : Line :=
  match Text.ofUtf8? bytes with
  | some text => .ok text
  | none => .error .invalidText

/-- What stands behind the last line feed: a failure takes the place of an unfinished line, and an
empty remainder is no line. -/
def lastLine (rest : List UInt8) : Option Fault → List Line
  | some fault => [.error fault]
  | none => if rest.isEmpty then [] else [lineOf rest]

def lines (source : Source) : List Line :=
  let parts := Text.pieces (· == lineFeed) source.bytes
  parts.dropLast.map (fun bytes ↦ lineOf (dropReturn bytes)) ++
    lastLine (parts.getLastD []) source.failure

end Source

end Lockstep
