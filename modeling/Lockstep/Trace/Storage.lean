import Lockstep.Trace.Cursor

namespace Lockstep

/-- The files that traces are read from, and the decompressor for those that are archives. -/
structure Storage where
  read : (path : String) → Except Fault (List UInt8)
  decompress : (archive : List UInt8) → Except Fault Source

namespace Storage

def components (path : String) : List String :=
  (Text.pieces (· == '/') path.toList).map String.ofList

/-- The text behind the last dot of the last component, if something stands before the dot. -/
def extension? (path : String) : Option String :=
  match ((components path).filter fun name ↦ name != "" && name != ".").getLast? with
  | none => none
  | some name =>
    let reversed := name.toList.reverse
    match reversed.dropWhile (· != '.') with
    | '.' :: before =>
      if before.isEmpty || name = ".." then none
      else some (String.ofList (reversed.takeWhile (· != '.')).reverse)
    | _ => none

def openTrace (storage : Storage) (path : String) : Except TraceError Source :=
  let source := do
    let bytes ← storage.read path
    if extension? path = some "zst" then storage.decompress bytes else return ⟨bytes, none⟩
  source.mapError (.unavailable path)

def openCursor (storage : Storage) (path : String) (window : Window) :
    Except TraceError Cursor :=
  (storage.openTrace path).map fun source ↦ .ofSource source window

def recordCount (storage : Storage) (path : String) (window : Window) :
    Except TraceError Nat :=
  (storage.openTrace path).bind fun source ↦ source.recordCount window

end Storage

end Lockstep
