import Lockstep.Fault

namespace Lockstep.Archive

def magic : List UInt8 := [0x28, 0xb5, 0x2f, 0xfd]

/-- Whether these first bytes, four at most, can start a frame to be skipped. The low digit of the
first one is free. -/
def isSkippable : List UInt8 → Bool
  | [] => true
  | first :: rest => first.toNat / 16 = 5 && rest.isPrefixOf [0x2a, 0x4d, 0x18]

def number (bytes : List UInt8) : Nat :=
  bytes.foldr (fun byte sum ↦ byte.toNat + 256 * sum) 0

inductive Opening where
  | incomplete
  | invalid (fault : Fault)
  | skippable (length : Nat) (rest : List UInt8)
  | frame (content : Nat) (rest : List UInt8)
  deriving DecidableEq, Repr

namespace Opening

def isSingle (descriptor : Nat) : Bool := descriptor / 32 % 2 = 1

/-- The width of the fields behind a descriptor: a window unless there is a single segment, and the
content length, which a single segment always declares. -/
def fieldsWidth (descriptor : Nat) : Nat :=
  match descriptor / 64 with
  | 0 => 1
  | 1 => if isSingle descriptor then 2 else 3
  | 2 => if isSingle descriptor then 4 else 5
  | _ => if isSingle descriptor then 8 else 9

def contentOf (field : List UInt8) : Nat :=
  if field.length = 2 then number field + 256 else number field

/-- Reads the fields behind a descriptor. Windows, dictionaries and checksums are not supported. -/
def ofFields (descriptor : Nat) (fields : List UInt8) : Opening :=
  let width := fieldsWidth descriptor
  if fields.length < width then .incomplete
  else if isSingle descriptor ∧ descriptor % 16 = 0 then
    .frame (contentOf (fields.take width)) (fields.drop width)
  else .invalid .unsupportedFrame

def ofBytes (input : List UInt8) : Opening :=
  if (input.take 4).isPrefixOf magic then
    match input.drop 4 with
    | [] => .incomplete
    | descriptor :: fields => ofFields descriptor.toNat fields
  else if isSkippable (input.take 4) then
    if input.length < 8 then .incomplete
    else .skippable (number ((input.drop 4).take 4)) (input.drop 8)
  else .invalid .unknownFrame

theorem length_le_of_ofFields {descriptor content : Nat} {fields rest : List UInt8}
    (h : ofFields descriptor fields = .frame content rest) : rest.length ≤ fields.length := by
  unfold ofFields at h
  simp only at h
  split at h
  · cases h
  split at h
  · cases h
    simp only [List.length_drop]
    omega
  · cases h

theorem ofFields_ne_skippable {descriptor length : Nat} {fields rest : List UInt8} :
    ofFields descriptor fields ≠ .skippable length rest := by
  unfold ofFields
  intro h
  simp only at h
  split at h
  · cases h
  split at h <;> cases h

theorem length_lt_of_frame {input rest : List UInt8} {content : Nat}
    (h : ofBytes input = .frame content rest) : rest.length < input.length := by
  unfold ofBytes at h
  split at h
  · split at h
    · cases h
    · rename_i descriptor fields hd
      have hl := congrArg List.length hd
      have := length_le_of_ofFields h
      simp only [List.length_drop, List.length_cons] at hl
      omega
  · split at h
    · split at h <;> cases h
    · cases h

theorem length_lt_of_skippable {input rest : List UInt8} {length : Nat}
    (h : ofBytes input = .skippable length rest) : rest.length < input.length := by
  unfold ofBytes at h
  split at h
  · split at h
    · cases h
    · exact absurd h ofFields_ne_skippable
  · split at h
    · split at h
      · cases h
      · cases h
        simp only [List.length_drop]
        omega
    · cases h

end Opening

inductive BlockKind where
  | stored
  | repeated
  | compressed
  | reserved
  deriving DecidableEq, Repr

structure BlockHeader where
  isLast : Bool
  kind : BlockKind
  size : Nat
  deriving DecidableEq, Repr

namespace BlockHeader

def ofBytes (a b c : UInt8) : BlockHeader :=
  let header := number [a, b, c]
  let kind := match header / 2 % 4 with
    | 0 => .stored
    | 1 => .repeated
    | 2 => .compressed
    | _ => .reserved
  ⟨header % 2 = 1, kind, header / 8⟩

def length (header : BlockHeader) : Nat :=
  if header.kind = .repeated then 1 else header.size

def content (header : BlockHeader) (data : List UInt8) : List UInt8 :=
  match header.kind with
  | .stored => data
  | .repeated => data.flatMap (List.replicate header.size)
  | _ => []

end BlockHeader

end Lockstep.Archive
