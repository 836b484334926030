import Lockstep.Session.Debugger
import Lockstep.Text.Hexadecimal
import Lockstep.Trace.Source

namespace Lockstep.Frame

def dollar : UInt8 := 0x24

def hash : UInt8 := 0x23

def plus : UInt8 := 0x2b

def minus : UInt8 := 0x2d

def maxBody : Nat := 4096

def checksum (bytes : List UInt8) : UInt8 :=
  bytes.foldl (· + ·) 0

def ofText (text : String) : String :=
  "$" ++ text ++ "#" ++ String.ofList (Hex.byteText (checksum (Text.utf8 text)))

def ending : Option Fault → SessionError
  | some fault => .io fault
  | none => .protocol "connection closed by stub"

def badStart (byte : UInt8) : SessionError :=
  .protocol ("unexpected byte 0x" ++ String.ofList (Hex.byteText byte) ++ " before packet start")

def badChecksum (expected computed : UInt8) : SessionError :=
  .protocol ("checksum mismatch: expected " ++ String.ofList (Hex.byteText expected) ++
    ", computed " ++ String.ofList (Hex.byteText computed))

/-- Passes over acknowledgements up to the start of a packet. Gives the rest of the bytes, also
after an error. -/
def findStart (atEnd : SessionError) : List UInt8 → Except SessionError Unit × List UInt8
  | [] => (.error atEnd, [])
  | byte :: rest =>
    if byte = plus then findStart atEnd rest
    else if byte = dollar then (.ok (), rest)
    else if byte = minus then (.error (.protocol "stub requested retransmission"), rest)
    else (.error (badStart byte), rest)

def readBody (atEnd : SessionError) :
    (room : Nat) → List UInt8 → Except SessionError (List UInt8) × List UInt8
  | _, [] => (.error atEnd, [])
  | room, byte :: rest =>
    if byte = hash then (.ok [], rest)
    else match room with
      | 0 => (.error (.protocol "packet too long"), rest)
      | room + 1 =>
        let (body, rest) := readBody atEnd room rest
        (body.map (byte :: ·), rest)

/-- The number that two checksum characters write. A plus sign and one digit will do. -/
def trailerValue? (high low : UInt8) : Option UInt8 :=
  (Hex.signedValue? [Char.ofNat high.toNat, Char.ofNat low.toNat]).map UInt8.ofNat

/-- Checks a body against its trailer, and then that it is text. -/
def check (body : List UInt8) (high low : UInt8) : Except SessionError String :=
  match trailerValue? high low with
  | none => .error (.protocol "invalid checksum digits")
  | some expected =>
    if checksum body ≠ expected then .error (badChecksum expected (checksum body))
    else match Text.ofUtf8? body with
      | some text => .ok text
      | none => .error (.protocol "packet is not valid UTF-8")

def readTrailer (atEnd : SessionError) (body : List UInt8) :
    List UInt8 → Except SessionError String × List UInt8
  | high :: low :: rest => (check body high low, rest)
  | _ => (.error atEnd, [])

def readBytes (atEnd : SessionError) (bytes : List UInt8) :
    Except SessionError String × List UInt8 :=
  match findStart atEnd bytes with
  | (.error error, rest) => (.error error, rest)
  | (.ok (), rest) =>
    match readBody atEnd maxBody rest with
    | (.error error, rest) => (.error error, rest)
    | (.ok body, rest) => readTrailer atEnd body rest

/-- Reads one packet. What was read is gone from the stream, also after an error. -/
def read : Attempt SessionError Source String := fun source ↦
  let (result, rest) := readBytes (ending source.failure) source.bytes
  (result, { source with bytes := rest })

end Lockstep.Frame
